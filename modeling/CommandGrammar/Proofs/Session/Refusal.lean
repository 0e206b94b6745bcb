import CommandGrammar.Proofs.Session.InPlace

/-! # When construction is refused

Every reason to refuse a construction has its place in the order of the checks, and the first
reason that applies is the error. A refused construction leaves no trace.
-/

namespace CommandGrammar

variable {R : Type}

namespace Grammar

/-! ## The reasons -/

/-- The first of the handles that has no node. -/
def firstUnknown? (grammar : Grammar R) (nodes : List NodeRef) : Option NodeRef :=
  nodes.find? fun node => (grammar.node? node).isNone

/-- The error with which an operation is refused. A reason applies only if those that are checked
before it do not. The position reached when nothing matches takes every child and is never
refused as a parent. -/
inductive Refuses (grammar : Grammar R) : Operation R → Error → Prop where
  | attachChild {parent child : NodeRef} :
      parent ≠ .notFound → grammar.node? child = none →
      Refuses grammar (.attach parent child) (.unknownNode child)
  | attachParent {parent child : NodeRef} :
      parent ≠ .notFound → grammar.node? child ≠ none → grammar.node? parent = none →
      Refuses grammar (.attach parent child) (.unknownNode parent)
  | attachExecutable {parent child : NodeRef} {node : Node R} :
      grammar.node? child ≠ none → grammar.node? parent = some node →
      node.isExecutable = true →
      Refuses grammar (.attach parent child) (.attachToExecutable node.name)
  | manyParent {parent : NodeRef} {children : List (String × NodeRef)} :
      parent ≠ .notFound → grammar.node? parent = none →
      Refuses grammar (.attachMany parent children) (.unknownNode parent)
  | manyExecutable {parent : NodeRef} {children : List (String × NodeRef)} {node : Node R} :
      grammar.node? parent = some node → node.isExecutable = true →
      Refuses grammar (.attachMany parent children) (.attachToExecutable node.name)
  | manyCapturing {parent : NodeRef} {children : List (String × NodeRef)} {node : Node R} :
      grammar.node? parent = some node → node.isExecutable = false → node.isCapturing = true →
      Refuses grammar (.attachMany parent children) (.bulkAttachToCapturing node.name)
  | manyChild {parent child : NodeRef} {children : List (String × NodeRef)} {node : Node R} :
      grammar.node? parent = some node → node.isExecutable = false → node.isCapturing = false →
      grammar.firstUnknown? (children.map (·.2)) = some child →
      Refuses grammar (.attachMany parent children) (.unknownNode child)
  | buildChild {spec : NodeSpec R} {child : NodeRef} :
      grammar.firstUnknown? spec.children = some child →
      Refuses grammar (.build spec) (.unknownNode child)
  | buildStore {spec : NodeSpec R} {store : StoreRef} :
      grammar.firstUnknown? spec.children = none → spec.target = .into store →
      grammar.stores.contains store = false →
      Refuses grammar (.build spec) (.unknownStore store)
  | register {root : NodeRef} :
      grammar.node? root = none → Refuses grammar (.register root) (.unknownNode root)
  | registerAs {name : String} {root : NodeRef} :
      grammar.node? root = none → Refuses grammar (.registerAs name root) (.unknownNode root)

variable {grammar : Grammar R}

theorem node?_eq_none_iff {node : NodeRef} (hnode : node ≠ .notFound) :
    grammar.node? node = none ↔ ∃ index, node = .stored index ∧ grammar.nodes[index]? = none := by
  cases node with
  | notFound => exact absurd rfl hnode
  | stored index => simp [node?]

theorem place?_eq_none_iff {node : NodeRef} :
    grammar.place? node = none ↔ grammar.node? node = none := by
  cases node <;> simp [place?, node?]

theorem place?_eq_some_of_known {node : NodeRef} (hnode : grammar.node? node ≠ none) :
    ∃ index, grammar.place? node = some index :=
  Option.ne_none_iff_exists'.mp (mt place?_eq_none_iff.mp hnode)

theorem known_of_place? {node : NodeRef} {index : Nat}
    (hplace : grammar.place? node = some index) : grammar.node? node ≠ none := fun hnode => by
  rw [place?_eq_none_iff.mpr hnode] at hplace
  cases hplace

/-! ## The errors -/

/-- Looking up several handles fails with the first that is unknown. -/
theorem places_eq (nodes : List NodeRef) :
    grammar.places nodes =
      match grammar.firstUnknown? nodes with
      | some node => .error (.unknownNode node)
      | none => .ok (nodes.filterMap grammar.place?) := by
  induction nodes with
  | nil => rfl
  | cons node rest ih =>
      cases hplace : grammar.place? node with
      | none =>
          have hnode := place?_eq_none_iff.mp hplace
          simp [places, hplace, firstUnknown?, hnode]
      | some index =>
          have hnode : grammar.node? node ≠ none := known_of_place? hplace
          have hfirst : grammar.firstUnknown? (node :: rest) = grammar.firstUnknown? rest := by
            simp [firstUnknown?, hnode]
          rw [places, hplace, hfirst, List.filterMap_cons_some hplace]
          dsimp only
          rw [ih]
          cases grammar.firstUnknown? rest <;> rfl

theorem build_eq_error_iff {spec : NodeSpec R} {error : Error} :
    grammar.build spec = .error error ↔ grammar.Refuses (.build spec) error := by
  constructor
  · intro hbuild
    rw [build, places_eq] at hbuild
    cases hchildren : grammar.firstUnknown? spec.children with
    | some child =>
        rw [hchildren] at hbuild
        cases hbuild
        exact .buildChild hchildren
    | none =>
        rw [hchildren] at hbuild
        simp only [bind, Except.bind] at hbuild
        cases htarget : spec.target with
        | nowhere => rw [htarget] at hbuild; cases hbuild
        | fresh => rw [htarget] at hbuild; cases hbuild
        | into store =>
            rw [htarget, resolveTarget] at hbuild
            cases hknown : grammar.stores.contains store with
            | true => rw [if_pos hknown] at hbuild; cases hbuild
            | false =>
                rw [hknown] at hbuild
                cases hbuild
                exact .buildStore hchildren htarget hknown
  · intro hrefuses
    cases hrefuses with
    | buildChild hchildren =>
        rw [build, places_eq, hchildren]
        rfl
    | buildStore hchildren htarget hknown =>
        rw [build, places_eq, hchildren, htarget]
        simp only [bind, Except.bind, resolveTarget, hknown, Bool.false_eq_true, if_false]

theorem attach_eq_error_iff {parent child : NodeRef} {error : Error} :
    grammar.attach parent child = .error error ↔ grammar.Refuses (.attach parent child) error := by
  constructor
  · intro hattach
    cases parent with
    | notFound => cases hattach
    | stored index =>
        rw [attach] at hattach
        cases hplace : grammar.place? child with
        | none =>
            rw [hplace] at hattach
            cases hattach
            exact .attachChild NodeRef.noConfusion (place?_eq_none_iff.mp hplace)
        | some place =>
            have hchild : grammar.node? child ≠ none := known_of_place? hplace
            rw [hplace] at hattach
            cases hparent : grammar.nodes[index]? with
            | none =>
                simp only [hparent] at hattach
                cases hattach
                exact .attachParent NodeRef.noConfusion hchild hparent
            | some node =>
                simp only [hparent] at hattach
                cases hexecutable : node.isExecutable with
                | false => rw [hexecutable] at hattach; cases hattach
                | true =>
                    rw [hexecutable] at hattach
                    cases hattach
                    exact .attachExecutable hchild hparent hexecutable
  · intro hrefuses
    cases hrefuses with
    | attachChild hsentinel hchild =>
        cases parent with
        | notFound => exact absurd rfl hsentinel
        | stored index => rw [attach, place?_eq_none_iff.mpr hchild]
    | attachParent hsentinel hchild hparent =>
        obtain ⟨place, hplace⟩ := place?_eq_some_of_known hchild
        obtain ⟨index, rfl, hmissing⟩ := (node?_eq_none_iff hsentinel).mp hparent
        simp only [attach, hplace, hmissing]
    | attachExecutable hchild hparent hexecutable =>
        obtain ⟨place, hplace⟩ := place?_eq_some_of_known hchild
        obtain ⟨index, rfl, hnode⟩ := node?_eq_some_iff.mp hparent
        simp only [attach, hplace, hnode, hexecutable, if_true]

theorem attachMany_eq_error_iff {parent : NodeRef} {children : List (String × NodeRef)}
    {error : Error} :
    grammar.attachMany parent children = .error error ↔
      grammar.Refuses (.attachMany parent children) error := by
  constructor
  · intro hattach
    cases parent with
    | notFound => cases hattach
    | stored index =>
        rw [attachMany] at hattach
        cases hparent : grammar.nodes[index]? with
        | none =>
            simp only [hparent] at hattach
            cases hattach
            exact .manyParent NodeRef.noConfusion hparent
        | some node =>
            simp only [hparent] at hattach
            cases hexecutable : node.isExecutable with
            | true =>
                rw [hexecutable] at hattach
                cases hattach
                exact .manyExecutable hparent hexecutable
            | false =>
                cases hcapturing : node.isCapturing with
                | true =>
                    rw [hexecutable, hcapturing] at hattach
                    cases hattach
                    exact .manyCapturing hparent hexecutable hcapturing
                | false =>
                    rw [hexecutable, hcapturing, places_eq] at hattach
                    cases hchildren : grammar.firstUnknown? (children.map (·.2)) with
                    | none => rw [hchildren] at hattach; cases hattach
                    | some child =>
                        rw [hchildren] at hattach
                        cases hattach
                        exact .manyChild hparent hexecutable hcapturing hchildren
  · intro hrefuses
    cases hrefuses with
    | manyParent hsentinel hparent =>
        obtain ⟨index, rfl, hmissing⟩ := (node?_eq_none_iff hsentinel).mp hparent
        simp only [attachMany, hmissing]
    | manyExecutable hparent hexecutable =>
        obtain ⟨index, rfl, hnode⟩ := node?_eq_some_iff.mp hparent
        simp only [attachMany, hnode, hexecutable, if_true]
    | manyCapturing hparent hexecutable hcapturing =>
        obtain ⟨index, rfl, hnode⟩ := node?_eq_some_iff.mp hparent
        simp only [attachMany, hnode, hexecutable, hcapturing, Bool.false_eq_true, if_false,
          if_true]
    | manyChild hparent hexecutable hcapturing hchildren =>
        obtain ⟨index, rfl, hnode⟩ := node?_eq_some_iff.mp hparent
        simp only [attachMany, hnode, hexecutable, hcapturing, Bool.false_eq_true, if_false,
          places_eq, hchildren]

end Grammar

namespace Dispatcher

variable {dispatcher : Dispatcher R}

theorem registerAs_eq_error_iff {name : String} {root : NodeRef} {error : Error} :
    dispatcher.registerAs name root = .error error ↔
      dispatcher.grammar.Refuses (.registerAs name root) error := by
  constructor
  · intro hregister
    rw [registerAs] at hregister
    cases hplace : dispatcher.grammar.place? root with
    | none =>
        rw [hplace] at hregister
        cases hregister
        exact .registerAs (Grammar.place?_eq_none_iff.mp hplace)
    | some index => rw [hplace] at hregister; cases hregister
  · intro hrefuses
    cases hrefuses with
    | registerAs hroot => rw [registerAs, Grammar.place?_eq_none_iff.mpr hroot]

theorem register_eq_error_iff {root : NodeRef} {error : Error} :
    dispatcher.register root = .error error ↔
      dispatcher.grammar.Refuses (.register root) error := by
  constructor
  · intro hregister
    rw [register] at hregister
    cases hroot : dispatcher.grammar.node? root with
    | none =>
        rw [hroot] at hregister
        cases hregister
        exact .register hroot
    | some node =>
        rw [hroot] at hregister
        cases registerAs_eq_error_iff.mp hregister with
        | registerAs hmissing => rw [hroot] at hmissing; cases hmissing
  · intro hrefuses
    cases hrefuses with
    | register hroot => rw [register, hroot]

theorem performChange_eq_refused_iff {α : Type} {respond : α → Response R}
    {result : Except Error (Change R α)} {error : Error}
    (hrespond : ∀ value, respond value ≠ .refused error) :
    (dispatcher.performChange respond result).response = .refused error ↔
      result = .error error := by
  cases result with
  | error fault => simp [performChange]
  | ok change => simpa [performChange] using hrespond change.value

theorem dispatcher_performChange_of_refused {α : Type} {respond : α → Response R}
    {result : Except Error (Change R α)} {error : Error}
    (hrespond : ∀ value, respond value ≠ .refused error)
    (hrefused : (dispatcher.performChange respond result).response = .refused error) :
    (dispatcher.performChange respond result).dispatcher = dispatcher := by
  rw [(performChange_eq_refused_iff hrespond).mp hrefused]
  rfl

theorem performEntry_eq_refused_iff {result : Except Error (Dispatcher R × Trace)}
    {error : Error} :
    (dispatcher.performEntry result).response = .refused error ↔ result = .error error := by
  cases result <;> simp [performEntry]

theorem dispatcher_performEntry_of_refused {result : Except Error (Dispatcher R × Trace)}
    {error : Error}
    (hrefused : (dispatcher.performEntry result).response = .refused error) :
    (dispatcher.performEntry result).dispatcher = dispatcher := by
  rw [performEntry_eq_refused_iff.mp hrefused]
  rfl

/-- An operation with a program is refused for the reasons given and for no others. -/
theorem perform_eq_refused_iff {operation : Operation R} {program : InPlace R (Response R)}
    (hprogram : operation.program? = some program) (error : Error) :
    (dispatcher.perform operation).response = .refused error ↔
      dispatcher.grammar.Refuses operation error := by
  cases operation with
  | build spec =>
      exact (performChange_eq_refused_iff nofun).trans
        Grammar.build_eq_error_iff
  | attach parent child =>
      exact (performChange_eq_refused_iff nofun).trans
        Grammar.attach_eq_error_iff
  | attachMany parent children =>
      exact (performChange_eq_refused_iff nofun).trans
        Grammar.attachMany_eq_error_iff
  | register root => exact performEntry_eq_refused_iff.trans register_eq_error_iff
  | registerAs name root => exact performEntry_eq_refused_iff.trans registerAs_eq_error_iff
  | _ => simp [Operation.program?] at hprogram

/-- A refused operation with a program leaves the dispatcher as it was. -/
theorem dispatcher_of_refused {operation : Operation R} {program : InPlace R (Response R)}
    (hprogram : operation.program? = some program) {error : Error}
    (hrefused : (dispatcher.perform operation).response = .refused error) :
    (dispatcher.perform operation).dispatcher = dispatcher := by
  cases operation with
  | build spec => exact dispatcher_performChange_of_refused nofun hrefused
  | attach parent child => exact dispatcher_performChange_of_refused nofun hrefused
  | attachMany parent children => exact dispatcher_performChange_of_refused nofun hrefused
  | register root => exact dispatcher_performEntry_of_refused hrefused
  | registerAs name root => exact dispatcher_performEntry_of_refused hrefused
  | _ => simp [Operation.program?] at hprogram

/-- Construction is refused exactly for the first reason that applies, and a refused construction
leaves no trace: a program that would leave behind whatever it changed before an error leaves the
dispatcher as it was, with all its nodes, edges, stores and entries, and otherwise it does what the
operation does. Attaching to the position reached when nothing matches succeeds without a
change. -/
theorem refuses_exactly_and_atomically (dispatcher : Dispatcher R) :
    (∀ child, InPlace.answer dispatcher ((fun _ => .done) <$> InPlace.attach .notFound child) =
      (.done, dispatcher)) ∧
    (∀ children,
      InPlace.answer dispatcher ((fun _ => .done) <$> InPlace.attachMany .notFound children) =
        (.done, dispatcher)) ∧
    ∀ operation program, operation.program? = some program →
      InPlace.answer dispatcher program =
        ((dispatcher.perform operation).response, (dispatcher.perform operation).dispatcher) ∧
      ∀ error,
        ((InPlace.answer dispatcher program).1 = .refused error ↔
          dispatcher.grammar.Refuses operation error) ∧
        ((InPlace.answer dispatcher program).1 = .refused error →
          (InPlace.answer dispatcher program).2 = dispatcher) := by
  refine ⟨fun child => rfl, fun children => rfl, fun operation program hprogram => ?_⟩
  have hanswer := dispatcher.answer_program hprogram
  refine ⟨hanswer, fun error => ?_⟩
  rw [hanswer]
  exact ⟨perform_eq_refused_iff hprogram error, dispatcher_of_refused hprogram⟩

/-- A node `menu` with a child that `nameShower` does not have. -/
def menuSpec : NodeSpec (List String) :=
  { NodeSpec.capturing "menu" with children := [.stored 0, .stored 7] }

/-- The store that `menu` would capture into is not created. -/
theorem refuses_exactly_and_atomically_menu :
    ∃ program, (Operation.build menuSpec).program? = some program ∧
      (InPlace.answer nameShower program).1 = .refused (.unknownNode (.stored 7)) ∧
      (InPlace.answer nameShower program).2 = nameShower := by
  obtain ⟨-, -, hrefuses⟩ := refuses_exactly_and_atomically nameShower
  have hprogram : (Operation.build menuSpec).program? =
      some (.node <$> InPlace.build menuSpec) := rfl
  obtain ⟨hreason, hatomic⟩ := (hrefuses _ _ hprogram).2 (.unknownNode (.stored 7))
  have hrefused := hreason.mpr (.buildChild (by decide))
  exact ⟨_, hprogram, hrefused, hatomic hrefused⟩

end Dispatcher

end CommandGrammar
