import CommandGrammar.Tokenizer

/-! # The pattern cache

A cache that holds only what compiling yields can be left out of an account of tokenizers: compiling
through it gives what compiling alone gives, and it stays such a cache. This holds of any way to
compile, whatever texts it refuses.
-/

namespace CommandGrammar

/-- What reading yields can be computed without comparing faults. -/
theorem Pattern.read?_eq_ok_of_toOption {source : String} {pattern : Pattern}
    (hread : (Pattern.read? source).toOption = some pattern) :
    Pattern.read? source = .ok pattern := by
  cases hresult : Pattern.read? source with
  | error fault => simp [hresult, Except.toOption] at hread
  | ok found =>
      rw [hresult] at hread
      rw [Option.some.inj hread]

/-- Every pattern in the cache is what its text compiles to. -/
def PatternCache.FaithfulTo (compiler : Pattern.Compiler) (cache : PatternCache) : Prop :=
  ∀ (source : String) (pattern : Pattern), cache.patterns[source]? = some pattern →
    compiler source = .ok pattern

/-- Every pattern in the cache is what reading its text yields. -/
def PatternCache.Faithful (cache : PatternCache) : Prop :=
  cache.FaithfulTo Pattern.read?

variable {compiler : Pattern.Compiler}

/-- Only the strategies that use a pattern go through the cache. -/
theorem Tokenizer.makeWith_snd (compiler : Pattern.Compiler) (cache : PatternCache)
    (strategy : Strategy) (source : String) :
    (Tokenizer.makeWith compiler cache strategy source).2 =
      if strategy = .literal then cache else (cache.compile compiler source).2 := by
  cases strategy with
  | literal =>
      rw [makeWith]
      split <;> rfl
  | regex => rfl
  | regexGroup group =>
      simp only [makeWith, reduceCtorEq, if_false]
      split
      · rfl
      · split <;> rfl

namespace PatternCache.FaithfulTo

theorem empty : PatternCache.empty.FaithfulTo compiler := by
  intro source pattern hpattern
  simp [PatternCache.empty] at hpattern

variable {cache : PatternCache}

/-- A faithful cache compiles as if there were none. -/
theorem compile_fst (hcache : cache.FaithfulTo compiler) (source : String) :
    (cache.compile compiler source).1 = (compiler source).mapError fun _ => .invalid source := by
  unfold PatternCache.compile
  cases hcached : cache.patterns[source]? with
  | some pattern => rw [hcache source pattern hcached]; rfl
  | none => cases compiler source <;> rfl

theorem compile_eq_ok (hcache : cache.FaithfulTo compiler) {source : String} {pattern : Pattern}
    (hpattern : compiler source = .ok pattern) :
    (cache.compile compiler source).1 = .ok pattern := by
  rw [hcache.compile_fst, hpattern]
  rfl

theorem compile_eq_error (hcache : cache.FaithfulTo compiler) {source : String}
    {fault : Malformation} (hfault : compiler source = .error fault) :
    (cache.compile compiler source).1 = .error (.invalid source) := by
  rw [hcache.compile_fst, hfault]
  rfl

theorem makeWith_regex_eq_ok (hcache : cache.FaithfulTo compiler) {source : String}
    {pattern : Pattern} (hpattern : compiler source = .ok pattern) :
    (Tokenizer.makeWith compiler cache .regex source).1 = .ok (.separator pattern) :=
  congrArg (Except.map Tokenizer.separator) (hcache.compile_eq_ok hpattern)

/-- Where a text does not compile, there is no tokenizer that uses its pattern. -/
theorem makeWith_eq_error (hcache : cache.FaithfulTo compiler) {strategy : Strategy}
    (hstrategy : strategy ≠ .literal) {source : String} {fault : Malformation}
    (hfault : compiler source = .error fault) :
    (Tokenizer.makeWith compiler cache strategy source).1 = .error (.invalid source) := by
  have hcompiled := hcache.compile_eq_error hfault
  cases strategy with
  | literal => exact absurd rfl hstrategy
  | regex => exact congrArg (Except.map Tokenizer.separator) hcompiled
  | regexGroup group => simp only [Tokenizer.makeWith, hcompiled]

/-- Compiling keeps the patterns that are there and adds the one that was compiled. -/
theorem getElem?_compile_iff (hcache : cache.FaithfulTo compiler) (source other : String)
    (pattern : Pattern) :
    (cache.compile compiler source).2.patterns[other]? = some pattern ↔
      cache.patterns[other]? = some pattern ∨ other = source ∧ compiler source = .ok pattern := by
  unfold PatternCache.compile
  cases hcached : cache.patterns[source]? with
  | some known =>
      -- A pattern that is there already is the one that compiling would yield.
      refine ⟨.inl, ?_⟩
      rintro (hthere | ⟨rfl, hpattern⟩)
      · exact hthere
      · rw [hcached, ← Except.ok.inj ((hcache other known hcached).symm.trans hpattern)]
  | none =>
      cases hresult : compiler source with
      | error fault => simp
      | ok found =>
          simp only [Std.ExtTreeMap.getElem?_insert, Std.compare_eq_iff_eq, Except.ok.injEq]
          by_cases hsame : source = other
          · subst hsame
            simp [hcached]
          · simp [hsame, Ne.symm hsame]

/-- Compiling keeps a cache faithful. -/
theorem compile (hcache : cache.FaithfulTo compiler) (source : String) :
    (cache.compile compiler source).2.FaithfulTo compiler := by
  intro other pattern hpattern
  rcases (hcache.getElem?_compile_iff source other pattern).mp hpattern with
    hthere | ⟨rfl, hcompiled⟩
  · exact hcache other pattern hthere
  · exact hcompiled

/-- Making tokenizers keeps a cache faithful. -/
theorem makeWith (hcache : cache.FaithfulTo compiler) (strategy : Strategy) (source : String) :
    (Tokenizer.makeWith compiler cache strategy source).2.FaithfulTo compiler := by
  rw [Tokenizer.makeWith_snd]
  split
  · exact hcache
  · exact hcache.compile source

/-- Which tokenizer is made, or why none can be, does not depend on what a faithful cache holds. -/
theorem makeWith_fst_eq (hcache : cache.FaithfulTo compiler) (strategy : Strategy)
    (source : String) :
    (Tokenizer.makeWith compiler cache strategy source).1 =
      (Tokenizer.makeWith compiler .empty strategy source).1 := by
  have hcompiled := hcache.compile_fst source
  rw [← PatternCache.FaithfulTo.empty.compile_fst] at hcompiled
  cases strategy with
  | literal =>
      simp only [Tokenizer.makeWith]
      split <;> rfl
  | regex => simp only [Tokenizer.makeWith, hcompiled]
  | regexGroup group =>
      simp only [Tokenizer.makeWith, hcompiled]
      cases (PatternCache.empty.compile compiler source).1 with
      | error fault => rfl
      | ok pattern =>
          dsimp only
          split <;> rfl

/-! ## Faults -/

/-- A text that does not compile is not kept. -/
theorem makeWith_snd_of_invalid (hcache : cache.FaithfulTo compiler) {strategy : Strategy}
    {source rejected : String}
    (hinvalid : (Tokenizer.makeWith compiler cache strategy source).1 =
      .error (.invalid rejected)) :
    (Tokenizer.makeWith compiler cache strategy source).2 = cache := by
  rw [Tokenizer.makeWith_snd]
  split
  next => rfl
  next hstrategy =>
    have hnone : ∀ pattern, compiler source ≠ .ok pattern := by
      intro pattern hpattern
      have hthere := hcache.compile_eq_ok hpattern
      cases strategy with
      | literal => exact hstrategy rfl
      | regex => simp [Tokenizer.makeWith, hthere, Except.map] at hinvalid
      | regexGroup group =>
          simp only [Tokenizer.makeWith, hthere] at hinvalid
          split at hinvalid <;> simp at hinvalid
    unfold PatternCache.compile
    cases hcached : cache.patterns[source]? with
    | some known => rfl
    | none =>
        cases hresult : compiler source with
        | error fault => rfl
        | ok pattern => exact absurd hresult (hnone pattern)

/-- A group can only be missing from a pattern, and then the text compiles. -/
theorem compiles_of_missingGroup (hcache : cache.FaithfulTo compiler) {strategy : Strategy}
    {source rejected : String} {group : Nat}
    (hmissing : (Tokenizer.makeWith compiler cache strategy source).1 =
      .error (.missingGroup rejected group)) :
    strategy ≠ .literal ∧ ∃ pattern, compiler source = .ok pattern := by
  have hstrategy : strategy ≠ .literal := by
    rintro rfl
    simp only [Tokenizer.makeWith] at hmissing
    split at hmissing <;> simp at hmissing
  refine ⟨hstrategy, ?_⟩
  cases hresult : compiler source with
  | ok pattern => exact ⟨pattern, rfl⟩
  | error fault =>
      rw [hcache.makeWith_eq_error hstrategy hresult] at hmissing
      simp at hmissing

end PatternCache.FaithfulTo

theorem PatternCache.Faithful.empty : PatternCache.empty.Faithful := PatternCache.FaithfulTo.empty

end CommandGrammar
