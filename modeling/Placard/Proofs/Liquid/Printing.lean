import Placard.Liquid.Render
import Placard.Proofs.Liquid.Conversion
import Placard.Proofs.Result

/-! What nodes print. A template whose nodes print texts and change no variables renders to those
texts in a row, and a registered filter is given the value that was taken over, as it was before. -/
namespace Placard.Liquid

/-- The node prints the text and leaves the variables and loops as they are. -/
def Prints (scope : Scope) (store : Store) (n : Node) (t : String) : Prop :=
  renderNode scope store n = .ok ⟨t,store,.none⟩

variable {scope : Scope} {store : Store}

theorem prints_text (t : String) : Prints scope store (.text t) t := rfl

theorem prints_output {c : Chain} {v : Value} (evaluates : c.eval scope store = .ok v) :
    Prints scope store (.output c) v.printed := by
  simp [Prints,renderNode,evaluates,Bind.bind,Except.bind,Pure.pure,Except.pure]

/-- A registered filter without arguments is given its input as JSON, and what it makes of that is
taken over. -/
theorem apply_registered {f : FilterCall} {h : Helper} {input taken : Value} {v : Json}
    (registered : scope.extensions.filters.lookup f.name = some h) (plain : f.named = [])
    (made : h input.toJson [] = .ok v) (fits : Value.ofJson? v = some taken) :
    f.apply scope store input = .ok taken := by
  have named : evalNamed scope store f.named = .ok [] := by
    rw [plain]
    rfl
  simp [FilterCall.apply,registered,named,made,accepted,fits,Bind.bind,Except.bind]

/-- A value that goes through one filter comes to what the filter makes of it. -/
theorem eval_filtered {e : Expression} {f : FilterCall} {v : Value}
    (evaluates : e.eval scope store = .ok v) :
    Chain.eval scope store ⟨e,[f]⟩ = f.apply scope store v := by
  rw [Chain.eval,evaluates]
  cases applied : f.apply scope store v <;>
    simp [applyFilters,applied,Bind.bind,Except.bind]

theorem renderNodes_of_prints {row : List (Node × String)}
    (prints : ∀ p ∈ row, Prints scope store p.1 p.2) :
    renderNodes scope store (row.map (·.1)) = .ok ⟨String.join (row.map (·.2)),store,.none⟩ := by
  induction row with
  | nil => rfl
  | cons p rest ih =>
    obtain ⟨first,later⟩ := List.forall_mem_cons.mp prints
    have first : renderNode scope store p.1 = .ok ⟨p.2,store,.none⟩ := first
    simp [renderNodes,first,ih later,String.join_cons,Bind.bind,Except.bind,Pure.pure,Except.pure]

/-- A template renders to what its nodes print for the fields that are taken over. -/
theorem render_of_prints {extensions : Extensions} {fields : List (String × Json)} {taken : Fields}
    (row : List (Node × String)) (fits : Value.ofFields? fields = some taken)
    (prints : ∀ p ∈ row, Prints ⟨extensions,[],taken⟩ .empty p.1 p.2) :
    render ⟨extensions,row.map (·.1)⟩ (.obj fields) = .ok (String.join (row.map (·.2))) := by
  simp [render,dataFields,fits,renderNodes_of_prints prints,Bind.bind,Except.bind,Pure.pure,
    Except.pure]

/-- A template of one output prints what its chain comes to for the fields that are taken over. -/
theorem render_output {extensions : Extensions} {fields : List (String × Json)} {taken : Fields}
    (fits : Value.ofFields? fields = some taken) (c : Chain) :
    render ⟨extensions,[.output c]⟩ (.obj fields) =
      (c.eval ⟨extensions,[],taken⟩ .empty).map Value.printed := by
  cases evaluates : c.eval ⟨extensions,[],taken⟩ .empty <;>
    simp [render,dataFields,fits,renderNodes,renderNode,evaluates,Bind.bind,Except.bind,Pure.pure,
      Except.pure,Except.map]

theorem root?_data (extensions : Extensions) {fields : List (String × Json)} {taken : Fields}
    (fits : Value.ofFields? fields = some taken) (key : String) :
    Scope.root? ⟨extensions,[],taken⟩ .empty key = (fields.lookup key).bind Value.ofJson? := by
  simp [Scope.root?,Store.empty,Value.lookup_ofFields? fits]

theorem find_field {extensions : Extensions} {fields : List (String × Json)} {taken : Fields}
    {name : String} {v : Json} {u : Value} (fits : Value.ofFields? fields = some taken)
    (found : fields.lookup name = some v) (made : Value.ofJson? v = some u) :
    (Expression.variable name []).eval ⟨extensions,[],taken⟩ .empty = .ok u := by
  have here : Scope.root? ⟨extensions,[],taken⟩ .empty name = some u := by
    rw [root?_data extensions fits,found]
    exact made
  simp [Expression.eval,evalSteps,Scope.find,Value.follow?,here,Bind.bind,Except.bind]

/-- A variable that neither the template nor the data knows. -/
theorem eval_absent {extensions : Extensions} {fields : List (String × Json)} {taken : Fields}
    {name : String} (fits : Value.ofFields? fields = some taken)
    (absent : fields.lookup name = none) :
    (Expression.variable name []).eval ⟨extensions,[],taken⟩ .empty = .error .unknownVariable := by
  have nowhere : Scope.root? ⟨extensions,[],taken⟩ .empty name = none := by
    rw [root?_data extensions fits,absent]
    rfl
  simp [Expression.eval,evalSteps,Scope.find,nowhere,Bind.bind,Except.bind]

end Placard.Liquid
