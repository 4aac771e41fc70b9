import Placard.Handlebars.Render

/-! Templates that embed no other. What such a template renders to depends on the helpers and the
data, and not on what else the table holds. -/
namespace Placard.Handlebars

mutual

def embeds : Node → Bool
  | .block _ _ _ _ body inverse => embedsIn body || embedsInBranch inverse
  | .embed _ _ _ _ _ => true
  | .text _ | .value _ _ | .call _ _ | .decorator _ _ => false

def embedsIn : List Node → Bool
  | [] => false
  | n :: rest => embeds n || embedsIn rest

def embedsInBranch : Option (List Node) → Bool
  | none => false
  | some nodes => embedsIn nodes

end

mutual

theorem renderNode_standalone (s : Settings) (others others' : Others) :
    (n : Node) → embeds n = false → ∀ scope page,
      renderNode s others scope page n = renderNode s others' scope page n
  | .text _,_,_,_ | .value _ _,_,_,_ | .call _ _,_,_,_ | .decorator _ _,_,_,_ => by
    simp only [renderNode]
  | .embed _ _ _ _ _,alone,_,_ => by simp [embeds] at alone
  | .block place c binders opensLine body inverse,alone,scope,page => by
    simp only [embeds,Bool.or_eq_false_iff] at alone
    have body := renderNodes_standalone s others others' body alone.1
    have branch := renderInverse_standalone s others others' inverse alone.2
    simp only [renderNode,body,branch]

theorem renderNodes_standalone (s : Settings) (others others' : Others) :
    (nodes : List Node) → embedsIn nodes = false →
      renderNodes s others nodes = renderNodes s others' nodes
  | [],_ => by
    funext scope page
    simp only [renderNodes]
  | n :: rest,alone => by
    simp only [embedsIn,Bool.or_eq_false_iff] at alone
    have first := renderNode_standalone s others others' n alone.1
    have later := renderNodes_standalone s others others' rest alone.2
    funext scope page
    simp only [renderNodes,first,later]

theorem renderInverse_standalone (s : Settings) (others others' : Others) :
    (inverse : Option (List Node)) → embedsInBranch inverse = false → ∀ scope page,
      renderInverse s others scope page inverse = renderInverse s others' scope page inverse
  | none,_,_,_ => by simp only [renderInverse]
  | some nodes,alone,scope,page => by
    have branch := renderNodes_standalone s others others' nodes alone
    simp only [renderInverse,branch]

end

theorem renderIn_standalone (s : Settings) {templates others : List (String × Template)}
    {id : String} {t : Template} (held : templates.lookup id = some t)
    (held' : others.lookup id = some t) (alone : embedsIn t = false) (fuel : Nat) :
    renderIn s templates (fuel + 1) id = renderIn s others (fuel + 1) id := by
  funext scope page
  have body := renderNodes_standalone s (renderIn s templates fuel) (renderIn s others fuel) t alone
  simp only [renderIn,held,held',body]

/-- A template that embeds no other renders the same in every table that holds it. -/
theorem render_standalone (s : Settings) {templates others : List (String × Template)}
    {id : String} {t : Template} (held : templates.lookup id = some t)
    (held' : others.lookup id = some t) (alone : embedsIn t = false) (data : Json) :
    render s templates id data = render s others id data := by
  have deep : renderIn s templates embedLimit id = renderIn s others embedLimit id :=
    renderIn_standalone s held held' alone (embedLimit - 1)
  rw [render,render,deep]

end Placard.Handlebars
