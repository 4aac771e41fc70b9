import Placard.Handlebars.Render
import Placard.Proofs.Result

/-! What nodes print. A page without indentation takes texts as they are, so a template whose nodes
print texts renders to those texts in a row. -/
namespace Placard.Handlebars

namespace Page

theorem indent_write (p : Page) (s : String) : (p.write s).indent = p.indent := by
  unfold write
  split <;> rfl

/-- Without indentation nothing is written but the text itself. -/
theorem text_write {p : Page} (plain : p.indent = "") (s : String) :
    (p.write s).text = p.text ++ s := by
  unfold write
  split
  next empty => simp [empty]
  next => simp [plain]

end Page

/-- Whatever the page, the node writes the text on it. -/
def Prints (s : Settings) (scope : Scope) (n : Node) (t : String) : Prop :=
  ∀ others page, renderNode s others scope page n = .ok (page.write t)

variable {s : Settings} {scope : Scope}

theorem prints_text (t : String) : Prints s scope (.text t) t := by
  intro others page
  rfl

theorem prints_call {place : Position} {c : Call} {call : Applied} {h : Helper} {v : Json}
    (finds : c.find s scope = .ok call) (registered : s.helpers.lookup call.name = some h)
    (made : h ((call.placed.head?.map Found.get).getD .null) call.named = .ok v) :
    Prints s scope (.call place c) (printed v) := by
  intro others page
  have callee : s.callee substituteHelper call.name = .ok (.registered h) := by
    simp [Settings.callee,Settings.callee?,registered]
  simp [renderNode,finds,printHelper,callee,printCall,callValue,callRegistered,made,textOf,
    Callee.isTest,blamed,Page.print,Bind.bind,Except.bind,Except.map,Pure.pure,Except.pure]

theorem renderNodes_of_prints {row : List (Node × String)} (prints : ∀ p ∈ row, Prints s scope p.1 p.2)
    (others : Others) {page : Page} (plain : page.indent = "") :
    ∃ page', renderNodes s others (row.map (·.1)) scope page = .ok page' ∧
      page'.text = (row.map (·.2)).foldl (· ++ ·) page.text := by
  induction row generalizing page with
  | nil => exact ⟨page,rfl,rfl⟩
  | cons p rest ih =>
    obtain ⟨first,later⟩ := List.forall_mem_cons.mp prints
    obtain ⟨page',rendered,text⟩ := ih later ((page.indent_write p.2).trans plain)
    refine ⟨page',?_,?_⟩
    · rw [List.map_cons,renderNodes,first others page]
      exact rendered
    · rw [text,Page.text_write plain,List.map_cons,List.foldl_cons]

theorem renderIn_of_prints {templates : List (String × Template)} {id : String}
    {row : List (Node × String)} (held : templates.lookup id = some (row.map (·.1)))
    (prints : ∀ p ∈ row, Prints s scope p.1 p.2) (fuel : Nat) {page : Page}
    (plain : page.indent = "") :
    ∃ page', renderIn s templates (fuel + 1) id scope page = .ok page' ∧
      page'.text = (row.map (·.2)).foldl (· ++ ·) page.text := by
  obtain ⟨page',rendered,text⟩ := renderNodes_of_prints prints (renderIn s templates fuel)
    (show ({ page with template := some id } : Page).indent = "" from plain)
  exact ⟨page',by rw [renderIn,held]; simp only [rendered]; rfl,text⟩

/-- A template renders to what its nodes print. -/
theorem render_of_prints {templates : List (String × Template)} {id : String} {data : Json}
    (row : List (Node × String)) (held : templates.lookup id = some (row.map (·.1)))
    (prints : ∀ p ∈ row, Prints s (.ofData data) p.1 p.2) :
    render s templates id data = .ok (String.join (row.map (·.2))) := by
  have deep : ∃ page', renderIn s templates embedLimit id (.ofData data) (.blank id) = .ok page' ∧
      page'.text = (row.map (·.2)).foldl (· ++ ·) "" :=
    renderIn_of_prints held prints (embedLimit - 1) rfl
  obtain ⟨page,rendered,text⟩ := deep
  simp only [render,rendered,Except.map,text,String.join]

theorem render_single {templates : List (String × Template)} {id : String} {data : Json} {n : Node}
    (held : templates.lookup id = some [n]) :
    render s templates id data =
      ((renderNode s (renderIn s templates (embedLimit - 1)) (.ofData data) (.blank id) n).mapError
        (Stop.ofTemplate id)).map Page.text := by
  have row : renderNodes s (renderIn s templates (embedLimit - 1)) [n] (.ofData data) (.blank id) =
      renderNode s (renderIn s templates (embedLimit - 1)) (.ofData data) (.blank id) n := by
    rw [renderNodes]
    cases renderNode s (renderIn s templates (embedLimit - 1)) (.ofData data) (.blank id) n <;> rfl
  rw [render,embedLimit,renderIn,held]
  exact congrArg (fun r => (r.mapError (Stop.ofTemplate id)).map Page.text) row

theorem find_field (fields : List (String × Json)) (written name : String) :
    (Scope.ofData (.obj fields)).find ⟨written,.block 0,[name]⟩ = .ok (fields.lookup name) := by
  cases found : fields.lookup name <;>
    simp [Scope.find,Scope.ofData,Scope.bound?,Scope.base,follow,stepInto,Json.field?,found]

end Placard.Handlebars
