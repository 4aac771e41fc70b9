import Mathlib.Data.List.Nodup
import Placard.Proofs.Registry
import Placard.Proofs.Result

/-! Templates that are stored one after the other, apart from what is counted on the way. Under
different keys they may be stored in either order, and of two under one key the later one stays; so a
row that is stored once more leaves everything as it is. -/
namespace Placard

def Compiled.language : Compiled → Language
  | handlebars _ => .handlebars
  | liquid _ => .liquid

namespace Registry

def uncounted (r : Registry) : Registry := { r with tally := [] }

def store (r : Registry) : String × Compiled → Registry
  | (key,.handlebars t) =>
    { r with
      handlebars := r.handlebars.map fun e => { e with templates := bind key t e.templates }
      keys := bind key .handlebars r.keys }
  | (key,.liquid t) =>
    { r with
      liquid := r.liquid.map fun e => { e with templates := bind key t e.templates }
      keys := bind key .liquid r.keys }

variable {r r' : Registry}

theorem uncounted_note (r : Registry) (l : Language) (key : String) (again : Bool) :
    (r.note l key again).uncounted = { r.uncounted with keys := bind key l r.keys } := by
  cases again <;> rfl

theorem language_of_compile? {l : Language} {text : String} {c : Compiled}
    (compiles : r.compile? l text = some c) : c.language = l := by
  obtain ⟨e,found,here⟩ := Option.bind_eq_some_iff.mp compiles
  rw [← language_of_engine? found]
  cases e <;> obtain ⟨t,-,rfl⟩ := Option.map_eq_some_iff.mp here <;> rfl

theorem registerText_store {l : Language} {key text : String} {again : Bool}
    (done : r.registerText l key text = .ok (again,r')) :
    ∃ c, r.compile? l (withoutFinalNewline text) = some c ∧
      r'.uncounted = r.uncounted.store (key,c) := by
  rw [registerText_eq] at done
  obtain ⟨r₁,changed,noted⟩ := map_eq_ok_iff.mp done
  obtain ⟨-,rfl⟩ := Prod.mk.inj noted
  obtain ⟨e,e',found,registered,rfl⟩ := change_eq_ok_iff.mp changed
  rw [uncounted_note]
  cases l with
  | handlebars =>
    obtain ⟨e,stands,rfl⟩ := Option.map_eq_some_iff.mp found
    obtain ⟨e',made,rfl⟩ := map_eq_ok_iff.mp registered
    cases compiles : Handlebars.compile? (withoutFinalNewline text) with
    | none => simp [HandlebarsEngine.registerTemplate,compiles] at made
    | some t =>
      simp only [HandlebarsEngine.registerTemplate,compiles,Except.ok.injEq] at made
      subst made
      refine ⟨.handlebars t,by simp [compile?,found,Engine.compile?,compiles],?_⟩
      simp [store,uncounted,withEngine,stands]
  | liquid =>
    obtain ⟨e,stands,rfl⟩ := Option.map_eq_some_iff.mp found
    obtain ⟨e',made,rfl⟩ := map_eq_ok_iff.mp registered
    cases compiles : Liquid.compile? e.extensions (withoutFinalNewline text) with
    | none => simp [LiquidEngine.registerTemplate,compiles] at made
    | some t =>
      simp only [LiquidEngine.registerTemplate,compiles,Except.ok.injEq] at made
      subst made
      refine ⟨.liquid t,by simp [compile?,found,Engine.compile?,compiles],?_⟩
      simp [store,uncounted,withEngine,stands]

theorem store_comm {w w' : String × Compiled} (apart : w.1 ≠ w'.1) (r : Registry) :
    (r.store w).store w' = (r.store w').store w := by
  obtain ⟨key,c⟩ := w
  obtain ⟨key',c'⟩ := w'
  cases c <;> cases c' <;>
    simp [store,bind,Json.insertField_comm apart,Function.comp_def]

theorem store_same {w w' : String × Compiled} (key : w.1 = w'.1)
    (language : w.2.language = w'.2.language) (r : Registry) :
    (r.store w).store w' = r.store w' := by
  obtain ⟨key,c⟩ := w
  obtain ⟨key',c'⟩ := w'
  subst key
  cases c <;> cases c' <;>
    simp [store,bind,Json.insertField_same,Function.comp_def,Compiled.language] at language ⊢

variable {row row' : List (String × Compiled)}

/-- Where every key stands once, templates may be stored in any order. -/
theorem foldl_store_perm (order : row.Perm row') (once : (row.map (·.1)).Nodup) (r : Registry) :
    row.foldl store r = row'.foldl store r := by
  refine order.foldl_eq' (fun w here w' there r => ?_) r
  by_cases same : w.1 = w'.1
  · rw [List.inj_on_of_nodup_map once here there same]
  · exact store_comm same r

/-- Of a row, the templates under one key are of one language. -/
def Coherent (row : List (String × Compiled)) : Prop :=
  ∀ w ∈ row, ∀ w' ∈ row, w.1 = w'.1 → w.2.language = w'.2.language

/-- What is stored before a row that has another template for it does not matter. -/
theorem foldl_store_absorbs {w w' : String × Compiled} (later : w' ∈ row) (key : w.1 = w'.1)
    (language : ∀ v ∈ row, w.1 = v.1 → w.2.language = v.2.language) (r : Registry) :
    row.foldl store (r.store w) = row.foldl store r := by
  induction row generalizing r with
  | nil => cases later
  | cons v rest ih =>
    obtain ⟨first,others⟩ := List.forall_mem_cons.mp language
    rw [List.foldl_cons,List.foldl_cons]
    by_cases same : w.1 = v.1
    · rw [store_same same (first same)]
    · rw [store_comm same]
      have apart : w' ≠ v := fun here => same (key.trans (congrArg _ here))
      exact ih (List.mem_of_ne_of_mem apart later) others (r.store v)

/-- A row that is stored twice comes to what it came to at first, although templates that were
replaced by later ones come back for a while. -/
theorem foldl_store_again (coherent : Coherent row) (r : Registry) :
    row.foldl store (row.foldl store r) = row.foldl store r := by
  have absorbed (front : List (String × Compiled)) (among : ∀ w ∈ front, w ∈ row) (r : Registry) :
      row.foldl store (front.foldl store r) = row.foldl store r := by
    induction front generalizing r with
    | nil => rfl
    | cons w rest ih =>
      obtain ⟨first,others⟩ := List.forall_mem_cons.mp among
      rw [List.foldl_cons,ih others,foldl_store_absorbs first rfl (coherent w first)]
  exact absorbed row (fun _ member => member) r

end Registry
end Placard
