import Placard.Proofs.Engine.Binding
import Placard.Proofs.Registry.Literal

/-! What data a Liquid engine renders. Data are taken over as a whole before anything is printed, so
every template fails for what is no object and for a number that is too large, be it in a field that
the template never asks for. A text without tags fails for nothing else. -/
namespace Placard

namespace Liquid

/-- Data that can be taken over: an object with no number inside that is too large. -/
structure Admissible (data : Json) : Prop where
  object : ∃ fields, data = .obj fields
  fits : data.Each Fits

theorem exists_dataFields_iff {data : Json} :
    (∃ taken, dataFields data = .ok taken) ↔ Admissible data := by
  constructor
  · rintro ⟨taken,admitted⟩
    cases data with
    | obj fields =>
      refine ⟨⟨fields,rfl⟩,(Value.isSome_ofJson?_iff _).mp ?_⟩
      cases made : Value.ofFields? fields with
      | none => simp [dataFields,made] at admitted
      | some _ => rw [Value.ofJson?,made,Option.map_some,Option.isSome_some]
    | _ => cases admitted
  · rintro ⟨⟨fields,rfl⟩,fits⟩
    obtain ⟨taken,made⟩ := Value.exists_ofFields? fits
    exact ⟨taken,by rw [dataFields,made]⟩

/-- What cannot be taken over fails every template, whatever the template prints. -/
theorem render_refused {data : Json} (refused : ¬ Admissible data) (t : Template) :
    ∃ reason, render t data = .error reason := by
  cases admitted : dataFields data with
  | ok taken => exact absurd (exists_dataFields_iff.mp ⟨taken,admitted⟩) refused
  | error reason =>
    refine ⟨reason,?_⟩
    rw [render,admitted]
    rfl

theorem render_admissible {data : Json} (admissible : Admissible data) (x : Extensions)
    (s : List Char) : render ⟨x,textNodes s⟩ data = .ok (String.ofList s) := by
  obtain ⟨⟨fields,rfl⟩,fits⟩ := admissible
  exact render_textNodes x s fits

end Liquid

/-- A text that loses the line end at its end opens no tag by that. -/
theorem Tagless.prepared {text : String} (tagless : Tagless text.toList) (trims : Bool) :
    Tagless (Engine.prepared text trims).toList := by
  cases trims with
  | false => exact tagless
  | true =>
    rw [← withoutFinalNewline_append text,String.toList_append] at tagless
    exact tagless.of_append

namespace Engine

variable {e : LiquidEngine} {id : String} {calls : List Call} {r : Registration}

theorem apply_rendered (last : (liquid e).LastRegistered id calls r) :
    ∃ x t, Liquid.compile? x (prepared r.text r.trims) = some t ∧ ∀ data,
      ((liquid e).run calls).apply id data =
        (Liquid.render t data).mapError fun reason => .renderFailed (.liquid reason) := by
  obtain ⟨c,compiles,held⟩ := compiled?_lastRegistered last
  -- No call changes the language, so the engine that compiled the text is one of Liquid too.
  obtain ⟨before,started⟩ := exists_liquid (language_of_origin (origin_run (liquid e) r.before))
  obtain ⟨after,ended⟩ := exists_liquid (language_of_origin (origin_run (liquid e) calls))
  rw [started,compile?] at compiles
  obtain ⟨t,compiled,rfl⟩ := Option.map_eq_some_iff.mp compiles
  refine ⟨before.extensions,t,compiled,fun data => ?_⟩
  rw [apply_eq,held,ended]
  simp [renderCompiled,LiquidEngine.apply]

/-- Whatever its text is, a template fails to render data that cannot be taken over. -/
theorem apply_refused (last : (liquid e).LastRegistered id calls r) {data : Json}
    (refused : ¬ Liquid.Admissible data) :
    ∃ reason, ((liquid e).run calls).apply id data = .error (.renderFailed (.liquid reason)) := by
  obtain ⟨x,t,-,rendered⟩ := apply_rendered last
  obtain ⟨reason,fails⟩ := Liquid.render_refused refused t
  exact ⟨reason,by rw [rendered,fails,Except.mapError]⟩

/-- Text without tags is printed for all data that can be taken over. -/
theorem apply_admissible (last : (liquid e).LastRegistered id calls r)
    (tagless : Tagless r.text.toList) {data : Json} (admissible : Liquid.Admissible data) :
    ((liquid e).run calls).apply id data = .ok (prepared r.text r.trims) := by
  obtain ⟨x,t,compiled,rendered⟩ := apply_rendered last
  have plain := tagless.prepared r.trims
  have literal := Liquid.compile?_text (x := x) plain.unprinted plain.untagged
  rw [String.ofList_toList,compiled] at literal
  cases literal
  rw [rendered,Liquid.render_admissible admissible,String.ofList_toList,Except.mapError]

/-- Nothing is lost in Liquid. A value is taken over just if no whole number inside is too large, and
then it is given back as it was, its numbers being finite as those of JSON are. So literal text is
printed for objects without a number that is too large and for them only; for all other data it fails
to render. -/
theorem conversion_lossless :
    (∀ v : Json, ((Liquid.Value.ofJson? v).isSome ↔ v.Each Liquid.Fits) ∧
      (v.Each Liquid.IsFinite → ∀ u, Liquid.Value.ofJson? v = some u → u.toJson = v)) ∧
    ∀ (e : LiquidEngine) (id : String) (calls : List Call) (r : Registration),
      (liquid e).LastRegistered id calls r → Tagless r.text.toList → ∀ data : Json,
        (((liquid e).run calls).apply id data = .ok (prepared r.text r.trims) ↔
          Liquid.Admissible data) ∧
        (¬ Liquid.Admissible data → ∃ reason,
          ((liquid e).run calls).apply id data = .error (.renderFailed (.liquid reason))) := by
  refine ⟨fun v => ⟨Liquid.Value.isSome_ofJson?_iff v,fun finite u made => ?_⟩,
    fun e id calls r last tagless data => ⟨⟨fun printed => ?_,fun admissible => ?_⟩,
      fun refused => ?_⟩⟩
  · exact Liquid.Value.toJson_of_ofJson? finite made
  · by_contra refused
    obtain ⟨reason,fails⟩ := apply_refused last refused
    cases printed.symm.trans fails
  · exact apply_admissible last tagless admissible
  · exact apply_refused last refused

def stocked (count : Int) : Json :=
  .obj [("items",.arr [.float ⟨0x3FF8000000000000⟩,.obj [("count",.int count)]]),("title",.str "News")]

/-- The id is registered once more with a text that does not compile, which changes nothing. -/
def notices : List Call :=
  [.registerTemplate "a" "No \x7b braces\n" true,.registerHelper "json" Helper.json,
    .registerTemplate "a" "\x7b% if x %\x7d" false,.registerTemplate "b" "x" false]

theorem apply_at_largest_number :
    (∃ u, Liquid.Value.ofJson? (stocked 9223372036854775807) = some u ∧
      u.toJson = stocked 9223372036854775807) ∧
    ((liquid .empty).run notices).apply "a" (stocked 9223372036854775807) = .ok "No \x7b braces" ∧
    ∃ reason, ((liquid .empty).run notices).apply "a" (stocked 9223372036854775808) =
      .error (.renderFailed (.liquid reason)) := by
  obtain ⟨converts,renders⟩ := conversion_lossless
  have last : (liquid .empty).LastRegistered "a" notices ⟨[],"No \x7b braces\n",true⟩ :=
    ⟨_,rfl,by cbv,by cbv⟩
  have tagless : Tagless "No \x7b braces\n".toList := ⟨by decide,by decide⟩
  have taken : (Liquid.Value.ofJson? (stocked 9223372036854775807)).isSome := by decide
  have fraction : Json.Each Liquid.IsFinite (.float ⟨0x3FF8000000000000⟩) := by
    rw [Json.each_leaf_iff (by trivial),Liquid.IsFinite]
    decide
  have number : Json.Each Liquid.IsFinite (.int 9223372036854775807) :=
    (Json.each_leaf_iff (by trivial)).mpr trivial
  have title : Json.Each Liquid.IsFinite (.str "News") :=
    (Json.each_leaf_iff (by trivial)).mpr trivial
  have finite : (stocked 9223372036854775807).Each Liquid.IsFinite := by
    simp [stocked,Json.each_obj_iff,Json.each_arr_iff,Liquid.IsFinite,fraction,number,title]
  have fits := (converts _).1.mp taken
  have tooLarge : ¬ (stocked 9223372036854775808).Each Liquid.Fits := by
    rw [← (converts _).1]
    decide
  obtain ⟨u,made⟩ := Option.isSome_iff_exists.mp taken
  refine ⟨⟨u,made,(converts _).2 finite u made⟩,?_,?_⟩
  · exact (renders _ _ _ _ last tagless _).1.mpr ⟨⟨_,rfl⟩,fits⟩
  · exact (renders _ _ _ _ last tagless _).2 fun admissible => tooLarge admissible.fits

end Engine

end Placard
