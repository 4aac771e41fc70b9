import Placard.Proofs.Liquid.Printing
import Placard.Proofs.Table

/-! A custom tag between nodes that print. What they print depends only on what the names stand for,
and the variables that a tag sets stand for their values from then on, as if they were fields of the
data. -/
namespace Placard.Liquid

/-- The names stand for the same, and the same filters are registered. -/
structure SeesAlike (scope scope' : Scope) (store store' : Store) : Prop where
  extensions : scope'.extensions = scope.extensions
  root : ∀ name, scope'.root? store' name = scope.root? store name

variable {scope scope' : Scope} {store store' : Store}

mutual

/-- What an expression comes to depends on its names alone. -/
theorem eval_alike (alike : SeesAlike scope scope' store store') :
    (e : Expression) → e.eval scope' store' = e.eval scope store
  | .literal _ => by simp only [Expression.eval]
  | .variable name steps => by
    simp only [Expression.eval,evalSteps_alike alike steps,Scope.find,alike.root]

theorem evalSteps_alike (alike : SeesAlike scope scope' store store') :
    (steps : List Expression) → evalSteps scope' store' steps = evalSteps scope store steps
  | [] => by simp only [evalSteps]
  | e :: rest => by simp only [evalSteps,eval_alike alike e,evalSteps_alike alike rest]

end

section
variable (alike : SeesAlike scope scope' store store')
include alike

theorem evalAll_alike (es : List Expression) : evalAll scope' store' es = evalAll scope store es := by
  induction es with
  | nil => rfl
  | cons e rest ih => simp only [evalAll,eval_alike alike e,ih]

theorem evalPlaced_alike (kinds : List Kind) (es : List Expression) :
    evalPlaced scope' store' kinds es = evalPlaced scope store kinds es := by
  induction kinds generalizing es with
  | nil => rfl
  | cons kind kinds ih =>
    cases es with
    | nil => rfl
    | cons e rest => simp only [evalPlaced,eval_alike alike e,ih]

theorem apply_alike (f : FilterCall) (input : Value) :
    f.apply scope' store' input = f.apply scope store input := by
  simp only [FilterCall.apply,evalNamed,evalAll_alike alike,evalPlaced_alike alike,alike.extensions]

theorem applyFilters_alike (fs : List FilterCall) (v : Value) :
    applyFilters scope' store' fs v = applyFilters scope store fs v := by
  induction fs generalizing v with
  | nil => rfl
  | cons f rest ih => simp only [applyFilters,apply_alike alike,ih]

theorem chain_alike (c : Chain) : c.eval scope' store' = c.eval scope store := by
  simp only [Chain.eval,eval_alike alike,applyFilters_alike alike]

end

def Node.prints : Node → Bool
  | .text _ | .output _ => true
  | _ => false

def printed (scope : Scope) (store : Store) : Node → Except Reason String
  | .text s => .ok s
  | .output c => (c.eval scope store).map Value.printed
  | _ => .ok ""

def printedAll (scope : Scope) (store : Store) : List Node → Except Reason String
  | [] => .ok ""
  | n :: rest => do
    let text ← printed scope store n
    let more ← printedAll scope store rest
    return text ++ more

theorem renderNode_prints (scope : Scope) (store : Store) {n : Node} (prints : n.prints) :
    renderNode scope store n = (printed scope store n).map fun text => ⟨text,store,.none⟩ := by
  cases n with
  | text s => rfl
  | output c => cases evaluates : c.eval scope store <;> simp [renderNode,printed,evaluates] <;> rfl
  | _ => cases prints

/-- Nodes that print leave the variables to the nodes after them as they were. -/
theorem renderNodes_append (scope : Scope) (store : Store) {ns : List Node}
    (prints : ∀ n ∈ ns, n.prints) (rest : List Node) :
    renderNodes scope store (ns ++ rest) = (printedAll scope store ns).bind fun before =>
      (renderNodes scope store rest).map fun r => { r with text := before ++ r.text } := by
  induction ns with
  | nil => cases rendered : renderNodes scope store rest <;> simp [printedAll,rendered] <;> rfl
  | cons n ns ih =>
    obtain ⟨first,others⟩ := List.forall_mem_cons.mp prints
    have later := ih others
    rw [List.cons_append,renderNodes,renderNode_prints scope store first,printedAll]
    cases printed scope store n with
    | error e => rfl
    | ok text =>
      cases row : printedAll scope store ns with
      | error e => simp [later,row,Bind.bind,Except.bind,Except.map]
      | ok more =>
        cases rendered : renderNodes scope store rest <;>
          simp [later,row,rendered,Bind.bind,Except.bind,Except.map,Pure.pure,Except.pure,
            String.append_assoc]

theorem printedAll_alike (alike : SeesAlike scope scope' store store') (ns : List Node) :
    printedAll scope' store' ns = printedAll scope store ns := by
  have one (n : Node) : printed scope' store' n = printed scope store n := by
    cases n with
    | output c => simp only [printed,chain_alike alike]
    | _ => rfl
  induction ns with
  | nil => rfl
  | cons n rest ih => simp only [printedAll,one,ih]

/-- A template of nodes that print. -/
theorem render_prints {x : Extensions} {fields : List (String × Json)} {taken : Fields}
    (fits : Value.ofFields? fields = some taken) {ns : List Node} (prints : ∀ n ∈ ns, n.prints) :
    render ⟨x,ns⟩ (.obj fields) = printedAll ⟨x,[],taken⟩ .empty ns := by
  have row := renderNodes_append ⟨x,[],taken⟩ .empty prints []
  rw [List.append_nil] at row
  cases printed : printedAll ⟨x,[],taken⟩ .empty ns <;>
    simp [render,dataFields,fits,row,printed,renderNodes,Bind.bind,Except.bind,Except.map,Pure.pure,
      Except.pure]

def overlay (fields vars : List (String × Json)) : List (String × Json) :=
  vars.foldl (fun fields p => Json.insertField p.1 p.2 fields) fields

theorem each_overlay {P : Json → Prop} {fields vars : List (String × Json)}
    (whole : Json.Each P (.obj fields)) (laid : ∀ p ∈ vars, p.2.Each P)
    (shape : ∀ fields, P (.obj fields)) : Json.Each P (.obj (overlay fields vars)) := by
  induction vars generalizing fields with
  | nil => exact whole
  | cons p vars ih =>
    obtain ⟨first,later⟩ := List.forall_mem_cons.mp laid
    refine ih (Json.each_obj_iff.mpr ⟨shape _,fun f member => ?_⟩) later
    rcases mem_insertField member with rfl | member
    · exact first
    · exact (Json.each_obj_iff.mp whole).2 f member

/-- Setting a variable lets its name stand for the value, where no loop is around. -/
theorem root?_set {scope : Scope} (flat : scope.loops = []) (store : Store) (name key : String)
    (u : Value) :
    scope.root? (store.set name u) key = if key = name then some u else scope.root? store key := by
  by_cases same : key = name <;>
    simp [Scope.root?,flat,Store.set,Json.lookup_insertField,same]

/-- Variables that are set stand before the data as if they were laid over its fields. -/
theorem setAll_overlay (scope : Scope) (flat : scope.loops = []) {store : Store}
    {fields vars : List (String × Json)} (fit : ∀ p ∈ vars, p.2.Each Fits)
    (sees : ∀ key, scope.root? store key = (fields.lookup key).bind Value.ofJson?) :
    ∃ store', setAll store vars = .ok store' ∧
      ∀ key, scope.root? store' key = ((overlay fields vars).lookup key).bind Value.ofJson? := by
  induction vars generalizing store fields with
  | nil => exact ⟨store,rfl,sees⟩
  | cons p vars ih =>
    obtain ⟨name,v⟩ := p
    obtain ⟨first,later⟩ := List.forall_mem_cons.mp fit
    obtain ⟨u,made⟩ := Option.isSome_iff_exists.mp ((Value.isSome_ofJson?_iff v).mpr first)
    have sees' (key : String) : scope.root? (store.set name u) key =
        ((Json.insertField name v fields).lookup key).bind Value.ofJson? := by
      rw [root?_set flat,Json.lookup_insertField]
      by_cases same : key = name
      · rw [if_pos same,if_pos same,Option.bind_some,made]
      · rw [if_neg same,if_neg same,sees]
    obtain ⟨store',set,seen⟩ := ih later sees'
    refine ⟨store',?_,seen⟩
    simpa [setAll,accepted,made,Bind.bind,Except.bind] using set

/-- A registered tag with a field for its one argument is given the field as it was. -/
theorem runTag_field {x : Extensions} {name key field : String} {f : TagFunction}
    (registered : x.tags.lookup name = some f) {fields : List (String × Json)} {taken : Fields}
    (fits : Value.ofFields? fields = some taken) {v : Json} {u : Value} (finite : v.Each IsFinite)
    (found : fields.lookup field = some v) (made : Value.ofJson? v = some u) :
    runTag ⟨x,[],taken⟩ .empty name [(key,.variable field [])] =
      ((f [(key,v)]).mapError (.tagRefused name)).bind (setAll .empty) := by
  have given : evalNamed ⟨x,[],taken⟩ .empty [(key,.variable field [])] = .ok [(key,v)] := by
    have back := Value.toJson_of_ofJson? finite made
    simp [evalNamed,evalAll,find_field fits found made,back,Json.fieldsOf,Json.insertField,Bind.bind,
      Except.bind,Pure.pure,Except.pure]
  simp only [runTag,given,registered,Bind.bind,Except.bind]

theorem render_around (x : Extensions) {fields : List (String × Json)} {taken : Fields}
    (fits : Value.ofFields? fields = some taken) (name : String) (given : List (String × Expression))
    {ns ms : List Node} (prints : ∀ n ∈ ns, n.prints) (prints' : ∀ m ∈ ms, m.prints) :
    render ⟨x,ns ++ .custom name given :: ms⟩ (.obj fields) = do
      let before ← printedAll ⟨x,[],taken⟩ .empty ns
      let store ← runTag ⟨x,[],taken⟩ .empty name given
      let after ← printedAll ⟨x,[],taken⟩ store ms
      return before ++ after := by
  have last (store : Store) := renderNodes_append ⟨x,[],taken⟩ store prints' []
  simp only [List.append_nil] at last
  simp only [render,dataFields,fits,Bind.bind,Except.bind,
    renderNodes_append ⟨x,[],taken⟩ .empty prints]
  cases printedAll ⟨x,[],taken⟩ .empty ns with
  | error e => rfl
  | ok before =>
    cases ran : runTag ⟨x,[],taken⟩ .empty name given with
    | error e => simp [renderNodes,renderNode,ran,Except.map,Bind.bind,Except.bind]
    | ok store =>
      cases after : printedAll ⟨x,[],taken⟩ store ms <;>
        simp [renderNodes,renderNode,ran,last,after,Except.map,Bind.bind,Except.bind,Pure.pure,
          Except.pure]

/-- A tag between nodes that print takes its argument from the data, and what it sets is laid over the
data for the nodes after it, and for those alone. -/
theorem render_custom {x : Extensions} {name key field : String} {f : TagFunction}
    (registered : x.tags.lookup name = some f) {fields : List (String × Json)}
    (numbers : Json.Each Fits (.obj fields)) {v : Json} (finite : v.Each IsFinite)
    (found : fields.lookup field = some v)
    (returns : ∀ vars, f [(key,v)] = .ok vars → ∀ p ∈ vars, p.2.Each Fits) {ns ms : List Node}
    (prints : ∀ n ∈ ns, n.prints) (prints' : ∀ m ∈ ms, m.prints) (text : String) :
    render ⟨x,ns ++ .custom name [(key,.variable field [])] :: ms⟩ (.obj fields) = .ok text ↔
      ∃ before vars after, render ⟨x,ns⟩ (.obj fields) = .ok before ∧ f [(key,v)] = .ok vars ∧
        render ⟨x,ms⟩ (.obj (overlay fields vars)) = .ok after ∧ text = before ++ after := by
  obtain ⟨taken,fits⟩ := Value.exists_ofFields? numbers
  obtain ⟨u,made⟩ := Option.isSome_iff_exists.mp
    ((Value.isSome_ofJson?_iff v).mpr (numbers.field found))
  have tail (vars : List (String × Json)) (ran : f [(key,v)] = .ok vars) :
      ∃ store, setAll .empty vars = .ok store ∧
        render ⟨x,ms⟩ (.obj (overlay fields vars)) = printedAll ⟨x,[],taken⟩ store ms := by
    obtain ⟨store,set,seen⟩ :=
      setAll_overlay ⟨x,[],taken⟩ rfl (returns vars ran) (root?_data x fits)
    obtain ⟨covered,fits'⟩ := Value.exists_ofFields?
      (each_overlay numbers (returns vars ran) fun _ => trivial)
    have alike : SeesAlike ⟨x,[],taken⟩ ⟨x,[],covered⟩ store .empty :=
      ⟨rfl,fun n => (root?_data x fits' n).trans (seen n).symm⟩
    exact ⟨store,set,by rw [render_prints fits' prints',printedAll_alike alike]⟩
  rw [render_around x fits name _ prints prints',render_prints fits prints,
    runTag_field registered fits finite found made]
  simp only [bind_eq_ok_iff]
  constructor
  · rintro ⟨before,first,store,ran,after,second,whole⟩
    cases whole
    cases returned : f [(key,v)] with
    | error e => simp [returned,Except.bind] at ran
    | ok vars =>
      obtain ⟨store',set,rest⟩ := tail vars returned
      simp only [returned,mapError_ok,Except.bind,set] at ran
      cases ran
      exact ⟨before,vars,after,first,rfl,rest.trans second,rfl⟩
  · rintro ⟨before,vars,after,first,returned,rest,rfl⟩
    obtain ⟨store,set,same⟩ := tail vars returned
    exact ⟨before,first,store,by simp [returned,Except.bind,set],after,same.symm.trans rest,rfl⟩

end Placard.Liquid
