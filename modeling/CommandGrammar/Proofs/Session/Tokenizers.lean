import CommandGrammar.Proofs.Pattern.Caching
import CommandGrammar.Session
import CommandGrammar.Settings
import Mathlib.Data.List.Basic

/-! # Making tokenizers through one cache

A program makes tokenizers on several occasions, and all of them share one cache of patterns, which
is asked before a pattern is compiled and extended before a group number is checked. It shows in no
answer. What it holds after any number of requests is told by the requests alone: the patterns that
they asked for and that compile. Nothing here depends on the way to compile, so it may know any
properties of characters and refuse what it likes.
-/

namespace CommandGrammar

variable {R : Type}

/-- The occasions on which a program makes a tokenizer. -/
inductive TokenizerRequest (R : Type) where
  /-- From a strategy and a delimiter or pattern text. -/
  | direct (strategy : Strategy) (source : String)
  /-- From the settings of a dispatcher. -/
  | configured (settings : Settings)
  /-- For the statements of the template. -/
  | statements
  /-- To replace the tokenizer of a dispatcher. -/
  | replacing (dispatcher : Dispatcher R) (strategy : Strategy) (source : String)

/-- What a program gets: the tokenizer or a fault, or the dispatcher that was to be changed. -/
inductive TokenizerAnswer (R : Type) where
  | made (result : Except PatternFault Tokenizer)
  | performed (performed : Performed R)

/-- The fault in the pattern or delimiter that an answer reports. -/
def TokenizerAnswer.fault? : TokenizerAnswer R → Option PatternFault
  | .made (.error fault) | .performed ⟨.refused (.pattern fault), _, _⟩ => some fault
  | _ => none

namespace TokenizerRequest

/-- The strategy that a request asks for. -/
def strategy : TokenizerRequest R → Strategy
  | .direct strategy _ | .replacing _ strategy _ => strategy
  | .configured settings => settings.tokenizerStrategy
  | .statements => .regexGroup Select.lexicalGroup

/-- The delimiter or pattern text that a request comes with. -/
def source : TokenizerRequest R → String
  | .direct _ source | .replacing _ _ source => source
  | .configured settings => settings.pattern
  | .statements => Select.lexicalPattern

/-- Answers a request with the tokenizer made for it, if one could be made. -/
def deliver (made : Except PatternFault Tokenizer) : TokenizerRequest R → TokenizerAnswer R
  | .replacing dispatcher _ _ => .performed (dispatcher.performTokenizer made)
  | _ => .made made

/-- Answers a request through a cache. -/
def answer (compiler : Pattern.Compiler) (cache : PatternCache) (request : TokenizerRequest R) :
    TokenizerAnswer R × PatternCache :=
  let made :=
    match request with
    | .direct strategy source | .replacing _ strategy source =>
      Tokenizer.makeWith compiler cache strategy source
    | .configured settings => settings.tokenizerWith compiler cache
    | .statements => Select.tokenizerWith compiler cache
  (request.deliver made.1, made.2)

/-- Answers requests in order through one cache. -/
def answerAll (compiler : Pattern.Compiler) (cache : PatternCache) :
    List (TokenizerRequest R) → List (TokenizerAnswer R) × PatternCache
  | [] => ([], cache)
  | request :: rest =>
    let (answered, after) := request.answer compiler cache
    let (others, final) := answerAll compiler after rest
    (answered :: others, final)

/-- The answer to a request where nothing is cached. -/
def uncached (compiler : Pattern.Compiler) (request : TokenizerRequest R) : TokenizerAnswer R :=
  (request.answer compiler .empty).1

theorem answer_eq (compiler : Pattern.Compiler) (cache : PatternCache)
    (request : TokenizerRequest R) :
    request.answer compiler cache =
      (request.deliver (Tokenizer.makeWith compiler cache request.strategy request.source).1,
        (Tokenizer.makeWith compiler cache request.strategy request.source).2) := by
  cases request <;> rfl

theorem fault?_deliver_iff (request : TokenizerRequest R)
    (made : Except PatternFault Tokenizer) (fault : PatternFault) :
    (request.deliver made).fault? = some fault ↔ made = .error fault := by
  cases request <;> cases made <;>
    simp [deliver, Dispatcher.performTokenizer, TokenizerAnswer.fault?]

/-! ## One request -/

variable {compiler : Pattern.Compiler} {cache : PatternCache}

/-- A faithful cache does not show in an answer. -/
theorem answer_fst_eq (hcache : cache.FaithfulTo compiler) (request : TokenizerRequest R) :
    (request.answer compiler cache).1 = request.uncached compiler := by
  rw [uncached, answer_eq, answer_eq, hcache.makeWith_fst_eq]

theorem answer_faithfulTo (hcache : cache.FaithfulTo compiler) (request : TokenizerRequest R) :
    (request.answer compiler cache).2.FaithfulTo compiler := by
  rw [answer_eq]
  exact hcache.makeWith request.strategy request.source

/-- A request adds its own pattern if it uses one that compiles. -/
theorem getElem?_answer_iff (hcache : cache.FaithfulTo compiler) (request : TokenizerRequest R)
    (source : String) (pattern : Pattern) :
    (request.answer compiler cache).2.patterns[source]? = some pattern ↔
      cache.patterns[source]? = some pattern ∨
        (request.strategy ≠ .literal ∧ request.source = source) ∧
          compiler source = .ok pattern := by
  rw [answer_eq, Tokenizer.makeWith_snd]
  by_cases hliteral : request.strategy = .literal
  · simp [hliteral]
  · rw [if_neg hliteral, hcache.getElem?_compile_iff]
    refine or_congr_right ⟨?_, ?_⟩
    · rintro ⟨rfl, hpattern⟩
      exact ⟨⟨hliteral, rfl⟩, hpattern⟩
    · rintro ⟨⟨_, rfl⟩, hpattern⟩
      exact ⟨rfl, hpattern⟩

/-! ## Sequences of requests -/

/-- From a faithful cache on, answers are as without one, and what is cached in the end was cached
before or asked for. -/
theorem answerAll_of_faithfulTo (hcache : cache.FaithfulTo compiler)
    (requests : List (TokenizerRequest R)) :
    (answerAll compiler cache requests).1 = requests.map (uncached compiler) ∧
      (answerAll compiler cache requests).2.FaithfulTo compiler ∧
      ∀ source pattern,
        (answerAll compiler cache requests).2.patterns[source]? = some pattern ↔
          cache.patterns[source]? = some pattern ∨
            (∃ request ∈ requests, request.strategy ≠ .literal ∧ request.source = source) ∧
              compiler source = .ok pattern := by
  induction requests generalizing cache with
  | nil => exact ⟨rfl, hcache, by simp [answerAll]⟩
  | cons request rest ih =>
      obtain ⟨hanswers, hfaithful, hpatterns⟩ := ih (answer_faithfulTo hcache request)
      refine ⟨congrArg₂ List.cons (answer_fst_eq hcache request) hanswers, hfaithful, ?_⟩
      intro source pattern
      refine (hpatterns source pattern).trans ?_
      rw [getElem?_answer_iff hcache]
      rw [List.exists_mem_cons_iff, or_and_right, or_assoc]

/-- The cache is transparent, whatever texts compile and to what. However many tokenizers were made
before, on whatever occasions, with success or not, every request is answered as if nothing were
cached. The cache holds, each under its own text, exactly the patterns that were asked for and
compile. So a pattern is there also if it lacked the group that was asked for, and an attempt with a
delimiter, or with a text that does not compile, leaves the cache as it was. -/
theorem answerAll_transparent (compiler : Pattern.Compiler)
    (requests : List (TokenizerRequest R)) :
    let cache := (answerAll compiler .empty requests).2
    (answerAll compiler .empty requests).1 = requests.map (uncached compiler) ∧
      (∀ source pattern, cache.patterns[source]? = some pattern ↔
        (∃ request ∈ requests, request.strategy ≠ .literal ∧ request.source = source) ∧
          compiler source = .ok pattern) ∧
      (∀ request : TokenizerRequest R,
        (request.answer compiler cache).1 = request.uncached compiler) ∧
      (∀ request ∈ requests, ∀ source group,
        (request.uncached compiler).fault? = some (.missingGroup source group) →
          cache.contains request.source = true) ∧
      ∀ request : TokenizerRequest R,
        (request.strategy = .literal ∨
          ∃ source, (request.answer compiler cache).1.fault? = some (.invalid source)) →
        (request.answer compiler cache).2 = cache := by
  intro cache
  have hempty : PatternCache.empty.FaithfulTo compiler := .empty
  obtain ⟨hanswers, hfaithful, hpatterns⟩ := answerAll_of_faithfulTo hempty requests
  have hpatterns : ∀ source pattern, cache.patterns[source]? = some pattern ↔
      (∃ request ∈ requests, request.strategy ≠ .literal ∧ request.source = source) ∧
        compiler source = .ok pattern := by
    intro source pattern
    refine (hpatterns source pattern).trans ?_
    simp [PatternCache.empty]
  refine ⟨hanswers, hpatterns, answer_fst_eq hfaithful, ?_, ?_⟩
  · intro request hrequest source group hmissing
    rw [uncached, answer_eq, fault?_deliver_iff] at hmissing
    obtain ⟨hstrategy, pattern, hpattern⟩ :=
      hempty.compiles_of_missingGroup hmissing
    have hthere := (hpatterns request.source pattern).mpr
      ⟨⟨request, hrequest, hstrategy, rfl⟩, hpattern⟩
    rw [PatternCache.contains, Std.ExtTreeMap.contains_eq_isSome_getElem?, hthere]
    rfl
  · rintro request (hliteral | ⟨source, hinvalid⟩)
    · rw [answer_eq, Tokenizer.makeWith_snd, if_pos hliteral]
    · rw [answer_eq] at hinvalid ⊢
      exact hfaithful.makeWith_snd_of_invalid ((fault?_deliver_iff _ _ _).mp hinvalid)

/-- The group is missing but the pattern is there; the open bracket is no pattern and the comma a
delimiter. -/
example :
    let requests : List (TokenizerRequest Unit) :=
      [.direct (.regexGroup 2) "(a)", .configured { pattern := "(" }, .direct .literal ","]
    (answerAll Pattern.read? .empty requests).2.patterns.keys = ["(a)"] := by decide

end TokenizerRequest

end CommandGrammar
