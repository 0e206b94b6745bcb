import CommandGrammar.Proofs.Grammar.Appending
import CommandGrammar.Proofs.Session.Invariant

/-! # Construction step by step

The operations that add nodes, edges and entries, written as programs that change a dispatcher as
they go: an error ends a program and leaves behind whatever was changed before it. The programs
answer what the operations answer and leave what they leave, also after an error, because every
check stands before the first change.
-/

namespace CommandGrammar

variable {R : Type}

/-- A program that changes a dispatcher as it goes. An error ends it and undoes nothing. -/
abbrev InPlace (R α : Type) := ExceptT Error (StateM (Dispatcher R)) α

namespace InPlace

variable {α β : Type}

/-- The result of a program and the dispatcher that it leaves behind. -/
def runOn (program : InPlace R α) (dispatcher : Dispatcher R) : Except Error α × Dispatcher R :=
  program.run.run dispatcher

/-! ## The operations as programs -/

/-- The place of a handle, which must be known. -/
def require (node : NodeRef) : InPlace R Nat := do
  match (← get).grammar.place? node with
  | some index => return index
  | none => throw (.unknownNode node)

/-- Changes the grammar. -/
def change (change : Grammar R → Grammar R) : InPlace R Unit :=
  modify fun dispatcher => { dispatcher with grammar := change dispatcher.grammar }

/-- The store that a node to be built captures into, created if it has to be. -/
def target : CaptureTarget → InPlace R (Option StoreRef)
  | .nowhere => return none
  | .fresh => do
    let created := (← get).grammar.newStore
    change fun _ => created.2
    return some created.1
  | .into store => do
    if (← get).grammar.stores.contains store then return some store
    else throw (.unknownStore store)

/-- Adds a node without children, and then one edge after the other. -/
def build (spec : NodeSpec R) : InPlace R NodeRef := do
  let children ← spec.children.mapM require
  let store ← target spec.target
  let index := (← get).grammar.size
  change fun grammar => grammar.append (spec.bare store)
  children.forM fun child =>
    change fun grammar => (grammar.link index (grammar.nameAt child) child).1
  return .stored index

/-- Refuses a place whose node has an action. -/
def requireOpen (index : Nat) : InPlace R Unit := do
  if (← get).grammar.isExecutable (.stored index) then
    throw (.attachToExecutable ((← get).grammar.nameAt index))

/-- Refuses a place whose node captures. -/
def requireSilent (index : Nat) : InPlace R Unit := do
  if ((← get).grammar.storeAt index).isSome then
    throw (.bulkAttachToCapturing ((← get).grammar.nameAt index))

/-- Adds an edge to a child under the child's own name. -/
def attach : NodeRef → NodeRef → InPlace R Unit
  | .notFound, _ => return ()
  | .stored index, child => do
    let place ← require child
    let parent ← require (.stored index)
    requireOpen parent
    change fun grammar => (grammar.link parent (grammar.nameAt place) place).1

/-- Adds edges to several children under the given keys, one after the other. -/
def attachMany : NodeRef → List (String × NodeRef) → InPlace R Unit
  | .notFound, _ => return ()
  | .stored index, children => do
    let parent ← require (.stored index)
    requireOpen parent
    requireSilent parent
    let places ← (children.map (·.2)).mapM require
    ((children.map (·.1)).zip places).forM fun entry =>
      change fun grammar => (grammar.link parent entry.1 entry.2).1

/-- Enters a node under a name. -/
def registerAs (name : String) (root : NodeRef) : InPlace R Unit := do
  let index ← require root
  modify fun dispatcher => { dispatcher with entries := dispatcher.entries.insert name index }

/-- Enters a node under its own name. -/
def register (root : NodeRef) : InPlace R Unit := do
  let index ← require root
  registerAs ((← get).grammar.nameAt index) root

/-! ## What the programs do -/

variable (dispatcher : Dispatcher R)

@[simp] theorem runOn_pure (value : α) :
    runOn (pure value) dispatcher = (.ok value, dispatcher) := rfl

@[simp] theorem runOn_throw (error : Error) :
    runOn (throw error : InPlace R α) dispatcher = (.error error, dispatcher) := rfl

@[simp] theorem runOn_get : runOn get dispatcher = (.ok dispatcher, dispatcher) := rfl

@[simp] theorem runOn_change (change : Grammar R → Grammar R) :
    runOn (InPlace.change change) dispatcher =
      (.ok (), { dispatcher with grammar := change dispatcher.grammar }) := rfl

theorem runOn_bind (program : InPlace R α) (next : α → InPlace R β) :
    runOn (program >>= next) dispatcher =
      match runOn program dispatcher with
      | (.ok value, after) => runOn (next value) after
      | (.error error, after) => (.error error, after) := by
  simp only [runOn, ExceptT.run_bind, StateT.run_bind]
  cases (ExceptT.run program).run dispatcher with
  | mk result after => cases result <;> rfl

theorem runOn_require (node : NodeRef) :
    runOn (require node) dispatcher =
      match dispatcher.grammar.place? node with
      | some index => (.ok index, dispatcher)
      | none => (.error (.unknownNode node), dispatcher) := by
  rw [require, runOn_bind, runOn_get]
  dsimp only
  cases dispatcher.grammar.place? node <;> rfl

/-- Looking up several handles changes nothing, and the first unknown one ends it. -/
theorem runOn_mapM_require (nodes : List NodeRef) :
    runOn (nodes.mapM require) dispatcher = (dispatcher.grammar.places nodes, dispatcher) := by
  induction nodes with
  | nil => rfl
  | cons node rest ih =>
      rw [List.mapM_cons, runOn_bind, runOn_require, Grammar.places]
      cases dispatcher.grammar.place? node with
      | none => rfl
      | some index =>
          dsimp only
          rw [runOn_bind, ih]
          cases dispatcher.grammar.places rest <;> rfl

theorem runOn_forM_change {ι : Type} (steps : List ι) (step : ι → Grammar R → Grammar R) :
    runOn (steps.forM fun next => change (step next)) dispatcher =
      (.ok (), { dispatcher with
        grammar := steps.foldl (fun grammar next => step next grammar) dispatcher.grammar }) := by
  induction steps generalizing dispatcher with
  | nil => rfl
  | cons next rest ih =>
      rw [List.forM, runOn_bind, runOn_change]
      exact ih _

end InPlace

namespace Grammar

theorem linkAll_eq_foldl (grammar : Grammar R) (parent : Nat) (children : List (String × Nat)) :
    (grammar.linkAll parent children).1 =
      children.foldl (fun current entry => (current.link parent entry.1 entry.2).1) grammar := by
  induction children generalizing grammar with
  | nil => rfl
  | cons entry rest ih => exact ih (grammar.link parent entry.1 entry.2).1

/-- Names do not change while edges are drawn, so it is indifferent when they are read. -/
theorem linkNamed_eq_foldl (grammar : Grammar R) (parent : Nat) (children : List Nat) :
    (grammar.linkNamed parent children).1 =
      children.foldl (fun current child =>
        (current.link parent (current.nameAt child) child).1) grammar := by
  induction children generalizing grammar with
  | nil => rfl
  | cons child rest ih =>
      rw [List.foldl_cons, ← ih, linkNamed, linkNamed]
      simp only [nameAt_link, List.map_cons, linkAll]

end Grammar

namespace InPlace

variable {α : Type} (dispatcher : Dispatcher R)

/-- The result of a construction, and the dispatcher behind it. -/
def settled : Except Error (Change R α) → Except Error α × Dispatcher R
  | .ok change => (.ok change.value, { dispatcher with grammar := change.grammar })
  | .error error => (.error error, dispatcher)

theorem runOn_target (goal : CaptureTarget) :
    runOn (target goal) dispatcher =
      match dispatcher.grammar.resolveTarget goal with
      | .ok (store, stores) =>
        (.ok store, { dispatcher with grammar := { dispatcher.grammar with stores } })
      | .error error => (.error error, dispatcher) := by
  cases goal with
  | nowhere => rfl
  | fresh => rfl
  | into store =>
      rw [target, runOn_bind, runOn_get, Grammar.resolveTarget]
      by_cases hknown : dispatcher.grammar.stores.contains store = true
      · simp [hknown]
      · simp [hknown]

theorem runOn_build (spec : NodeSpec R) :
    runOn (build spec) dispatcher = settled dispatcher (dispatcher.grammar.build spec) := by
  rw [build, runOn_bind, runOn_mapM_require, Grammar.build]
  cases dispatcher.grammar.places spec.children with
  | error error => rfl
  | ok children =>
      dsimp only
      rw [runOn_bind, runOn_target]
      cases dispatcher.grammar.resolveTarget spec.target with
      | error error => rfl
      | ok resolved =>
          dsimp only
          rw [runOn_bind, runOn_get]
          dsimp only
          rw [runOn_bind, runOn_change]
          dsimp only
          rw [runOn_bind, runOn_forM_change, ← Grammar.linkNamed_eq_foldl]
          rfl

/-! ### Checks of a stored node -/

section Checks

variable {dispatcher : Dispatcher R} {index : Nat} {node : Node R}

theorem runOn_require_of_stored (hnode : dispatcher.grammar.nodes[index]? = some node) :
    runOn (require (.stored index)) dispatcher = (.ok index, dispatcher) := by
  have hbound := (Array.getElem?_eq_some_iff.mp hnode).1
  rw [runOn_require, Grammar.place?_eq_some_iff.mpr ⟨rfl, hbound⟩]

theorem runOn_require_of_missing (hnode : dispatcher.grammar.nodes[index]? = none) :
    runOn (require (.stored index)) dispatcher =
      (.error (.unknownNode (.stored index)), dispatcher) := by
  have hplace : dispatcher.grammar.place? (.stored index) = none := by
    simpa [Grammar.place?] using hnode
  rw [runOn_require, hplace]

theorem nameAt_of_stored (hnode : dispatcher.grammar.nodes[index]? = some node) :
    dispatcher.grammar.nameAt index = node.name := by
  rw [Grammar.nameAt, hnode]

theorem runOn_requireOpen (hnode : dispatcher.grammar.nodes[index]? = some node) :
    runOn (requireOpen index) dispatcher =
      if node.isExecutable then (.error (.attachToExecutable node.name), dispatcher)
      else (.ok (), dispatcher) := by
  have hexecutable : dispatcher.grammar.isExecutable (.stored index) = node.isExecutable := by
    simp [Grammar.isExecutable, Grammar.node?, hnode]
  rw [requireOpen, runOn_bind, runOn_get, ← nameAt_of_stored hnode]
  dsimp only
  rw [hexecutable]
  cases node.isExecutable <;> rfl

theorem runOn_requireSilent (hnode : dispatcher.grammar.nodes[index]? = some node) :
    runOn (requireSilent index) dispatcher =
      if node.isCapturing then (.error (.bulkAttachToCapturing node.name), dispatcher)
      else (.ok (), dispatcher) := by
  have hcapturing : (dispatcher.grammar.storeAt index).isSome = node.isCapturing := by
    simp [Grammar.storeAt, hnode, Node.isCapturing]
  rw [requireSilent, runOn_bind, runOn_get, ← nameAt_of_stored hnode]
  dsimp only
  rw [hcapturing]
  cases node.isCapturing <;> rfl

end Checks

theorem runOn_attach (parent child : NodeRef) :
    runOn (attach parent child) dispatcher =
      settled dispatcher (dispatcher.grammar.attach parent child) := by
  cases parent with
  | notFound => rfl
  | stored index =>
      rw [attach, runOn_bind, runOn_require, Grammar.attach]
      cases dispatcher.grammar.place? child with
      | none => rfl
      | some place =>
          dsimp only
          rw [runOn_bind]
          cases hparent : dispatcher.grammar.nodes[index]? with
          | none => rw [runOn_require_of_missing hparent]; rfl
          | some node =>
              rw [runOn_require_of_stored hparent]
              dsimp only
              rw [runOn_bind, runOn_requireOpen hparent]
              cases node.isExecutable <;> rfl

theorem runOn_attachMany (parent : NodeRef) (children : List (String × NodeRef)) :
    runOn (attachMany parent children) dispatcher =
      settled dispatcher (dispatcher.grammar.attachMany parent children) := by
  cases parent with
  | notFound => rfl
  | stored index =>
      rw [attachMany, runOn_bind, Grammar.attachMany]
      cases hparent : dispatcher.grammar.nodes[index]? with
      | none => rw [runOn_require_of_missing hparent]; rfl
      | some node =>
          rw [runOn_require_of_stored hparent]
          dsimp only
          rw [runOn_bind, runOn_requireOpen hparent]
          cases node.isExecutable with
          | true => rfl
          | false =>
              simp only [Bool.false_eq_true, if_false]
              rw [runOn_bind, runOn_requireSilent hparent]
              cases node.isCapturing with
              | true => rfl
              | false =>
                  simp only [Bool.false_eq_true, if_false]
                  rw [runOn_bind, runOn_mapM_require]
                  cases dispatcher.grammar.places (children.map (·.2)) with
                  | error error => rfl
                  | ok places =>
                      dsimp only
                      rw [runOn_forM_change, ← Grammar.linkAll_eq_foldl]
                      rfl

/-- The result of a registration, and the dispatcher behind it. -/
def entered : Except Error (Dispatcher R × Trace) → Except Error Unit × Dispatcher R
  | .ok (after, _) => (.ok (), after)
  | .error error => (.error error, dispatcher)

theorem runOn_registerAs (name : String) (root : NodeRef) :
    runOn (registerAs name root) dispatcher =
      entered dispatcher (dispatcher.registerAs name root) := by
  rw [registerAs, runOn_bind, runOn_require, Dispatcher.registerAs]
  cases dispatcher.grammar.place? root <;> rfl

theorem runOn_register (root : NodeRef) :
    runOn (register root) dispatcher = entered dispatcher (dispatcher.register root) := by
  rw [register, runOn_bind, Dispatcher.register]
  cases root with
  | notFound => rfl
  | stored index =>
      cases hroot : dispatcher.grammar.nodes[index]? with
      | none =>
          rw [runOn_require_of_missing hroot]
          simp only [Grammar.node?, hroot]
          rfl
      | some node =>
          rw [runOn_require_of_stored hroot]
          dsimp only
          rw [runOn_bind, runOn_get]
          dsimp only
          rw [nameAt_of_stored hroot, runOn_registerAs]
          simp only [Grammar.node?, hroot]

/-- The answer of a program, an error being a refusal, and the dispatcher that it leaves. -/
def answer (program : InPlace R (Response R)) : Response R × Dispatcher R :=
  match runOn program dispatcher with
  | (.ok response, after) => (response, after)
  | (.error error, after) => (.refused error, after)

theorem answer_map (program : InPlace R α) (respond : α → Response R) :
    answer dispatcher (respond <$> program) =
      match runOn program dispatcher with
      | (.ok value, after) => (respond value, after)
      | (.error error, after) => (.refused error, after) := by
  rw [answer, map_eq_pure_bind, runOn_bind]
  rcases runOn program dispatcher with ⟨_ | _, _⟩ <;> rfl

theorem answer_of_settled {program : InPlace R α} (respond : α → Response R)
    {result : Except Error (Change R α)}
    (hsettled : runOn program dispatcher = settled dispatcher result) :
    answer dispatcher (respond <$> program) =
      ((dispatcher.performChange respond result).response,
        (dispatcher.performChange respond result).dispatcher) := by
  rw [answer_map, hsettled]
  cases result <;> rfl

theorem answer_of_entered {program : InPlace R Unit}
    {result : Except Error (Dispatcher R × Trace)}
    (hentered : runOn program dispatcher = entered dispatcher result) :
    answer dispatcher ((fun _ => .done) <$> program) =
      ((dispatcher.performEntry result).response,
        (dispatcher.performEntry result).dispatcher) := by
  rw [answer_map, hentered]
  cases result <;> rfl

end InPlace

/-- The program of an operation that adds nodes, edges or entries one by one. -/
def Operation.program? : Operation R → Option (InPlace R (Response R))
  | .build spec => some (.node <$> InPlace.build spec)
  | .attach parent child => some ((fun _ => .done) <$> InPlace.attach parent child)
  | .attachMany parent children => some ((fun _ => .done) <$> InPlace.attachMany parent children)
  | .register root => some ((fun _ => .done) <$> InPlace.register root)
  | .registerAs name root => some ((fun _ => .done) <$> InPlace.registerAs name root)
  | _ => none

/-- An operation answers what its program answers and leaves behind what its program leaves. -/
theorem Dispatcher.answer_program {operation : Operation R} {program : InPlace R (Response R)}
    (dispatcher : Dispatcher R) (hprogram : operation.program? = some program) :
    InPlace.answer dispatcher program =
      ((dispatcher.perform operation).response, (dispatcher.perform operation).dispatcher) := by
  cases operation with
  | build spec =>
      obtain rfl := Option.some.inj hprogram
      exact InPlace.answer_of_settled dispatcher _ (InPlace.runOn_build dispatcher spec)
  | attach parent child =>
      obtain rfl := Option.some.inj hprogram
      exact InPlace.answer_of_settled dispatcher _ (InPlace.runOn_attach dispatcher parent child)
  | attachMany parent children =>
      obtain rfl := Option.some.inj hprogram
      exact InPlace.answer_of_settled dispatcher _
        (InPlace.runOn_attachMany dispatcher parent children)
  | register root =>
      obtain rfl := Option.some.inj hprogram
      exact InPlace.answer_of_entered dispatcher (InPlace.runOn_register dispatcher root)
  | registerAs name root =>
      obtain rfl := Option.some.inj hprogram
      exact InPlace.answer_of_entered dispatcher (InPlace.runOn_registerAs dispatcher name root)
  | _ => simp [Operation.program?] at hprogram

end CommandGrammar
