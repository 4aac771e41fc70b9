import Mathlib.Data.List.TakeWhile
import Placard.Manifest
import Placard.Source.Remote

/-! Where the files of templates are asked for. Beside the manifest they are asked for in the folder of
the manifest's own URL, at the top of the repository under the path that they have in a folder. -/
namespace Placard

structure AfterSlashes (text rest : List Char) : Prop where
  slashes : ∃ count, text = List.replicate count '/' ++ rest
  first : rest.head? ≠ some '/'

structure BeforeSlashes (text front : List Char) : Prop where
  slashes : ∃ count, text = front ++ List.replicate count '/'
  last : front.getLast? ≠ some '/'

/-- A path cut just after its last slash, or at its front where it has none. -/
structure CutAfterSlash (path folder name : List Char) : Prop where
  whole : path = folder ++ name
  unslashed : '/' ∉ name
  slash : folder = [] ∨ folder.getLast? = some '/'

theorem afterSlashes_withoutLeadingSlashes (text : List Char) :
    AfterSlashes text (withoutLeadingSlashes text) where
  slashes := by
    have front : text.takeWhile (· = '/') =
        List.replicate (text.takeWhile (· = '/')).length '/' :=
      List.eq_replicate_iff.mpr ⟨rfl,fun c member => by simpa using List.mem_takeWhile_imp member⟩
    exact ⟨_,by rw [← front,withoutLeadingSlashes,List.takeWhile_append_dropWhile]⟩
  first := by
    intro first
    have stopped := List.head?_dropWhile_not (· = '/') text
    rw [withoutLeadingSlashes] at first
    simp [first] at stopped

theorem beforeSlashes_withoutTrailingSlashes (text : List Char) :
    BeforeSlashes text (Repository.withoutTrailingSlashes text) := by
  obtain ⟨⟨count,split⟩,first⟩ := afterSlashes_withoutLeadingSlashes text.reverse
  refine ⟨⟨count,?_⟩,?_⟩
  · rw [← List.reverse_inj,split,List.reverse_append,List.reverse_replicate,
      Repository.withoutTrailingSlashes,List.reverse_reverse]
    rfl
  · rw [Repository.withoutTrailingSlashes,List.getLast?_reverse]
    exact first

namespace Location

theorem parent?_cases (path : List Char) :
    parent? path = none ∧ '/' ∉ path ∨
      ∃ front name, parent? path = some front ∧ path = front ++ '/' :: name ∧ '/' ∉ name := by
  have whole := List.takeWhile_append_dropWhile (p := (· ≠ '/')) (l := path.reverse)
  have unslashed : '/' ∉ path.reverse.takeWhile (· ≠ '/') := fun member => by
    simpa using List.mem_takeWhile_imp member
  generalize path.reverse.takeWhile (· ≠ '/') = name at whole unslashed
  unfold parent?
  cases back : path.reverse.dropWhile (· ≠ '/') with
  | nil =>
    rw [back,List.append_nil] at whole
    rw [whole] at unslashed
    exact .inl ⟨rfl,by simpa using unslashed⟩
  | cons c front =>
    have slash : c = '/' := by
      have stopped := List.head?_dropWhile_not (· ≠ '/') path.reverse
      rw [back] at stopped
      simpa using stopped
    refine .inr ⟨front.reverse,name.reverse,rfl,?_,by simpa using unslashed⟩
    rw [← List.reverse_inj,← whole,back,slash]
    simp

end Location

def Entry.filePath (e : Entry) : String := e.target.path e.target.folder e.template

theorem Entry.path_eq (e : Entry) (location : Location) (manifest : String) :
    e.path location manifest =
      e.target.path (location.templateRoot e.target.folder manifest) e.template := rfl

/-- A folder that the root is below is one that the template is below. -/
theorem Target.path_append (t : Target) (front root template : String) :
    t.path (front ++ root) template = front ++ t.path root template := by
  unfold Target.path
  cases t.client <;> simp [String.append_assoc]

theorem Entry.head_filePath (e : Entry) : e.filePath.toList.head? ≠ some '/' := by
  unfold Entry.filePath Target.path Target.folder
  cases e.target.client <;> simp

namespace Repository

variable (r : Repository)

/-- The URL of a path without slashes at its front stands after that of the folder of contents. -/
theorem contentsUrl_of_head {path : String} (first : path.toList.head? ≠ some '/') :
    r.contentsUrl path = r.contentsUrl "" ++ path := by
  have empty : withoutLeadingSlashes "".toList = [] := rfl
  rw [contentsUrl,contentsUrl,withoutLeadingSlashes_of_head first,empty,String.ofList_toList]
  simp

/-- Slashes at the front of a path make no difference. -/
theorem contentsUrl_withoutLeadingSlashes (path : String) :
    r.contentsUrl (String.ofList (withoutLeadingSlashes path.toList)) = r.contentsUrl path := by
  have stripped := withoutLeadingSlashes_of_head (afterSlashes_withoutLeadingSlashes path.toList).first
  rw [contentsUrl,contentsUrl,String.toList_ofList,stripped]

/-- Beside the manifest a template is asked for in the folder that the manifest is asked for in. -/
theorem contentsUrl_beside (manifest : String) (e : Entry) :
    ∃ folder name, CutAfterSlash (withoutLeadingSlashes manifest.toList) folder name ∧
      r.contentsUrl (e.path (.repository r true) manifest) =
        r.contentsUrl "" ++ String.ofList folder ++ e.filePath := by
  have first := (afterSlashes_withoutLeadingSlashes manifest.toList).first
  rcases Location.parent?_cases (withoutLeadingSlashes manifest.toList) with
    ⟨none,unslashed⟩ | ⟨front,name,some,split,unslashed⟩
  · refine ⟨[],_,⟨rfl,unslashed,.inl rfl⟩,?_⟩
    have path : e.path (.repository r true) manifest = e.filePath := by
      rw [Entry.path_eq,Location.templateRoot,none]
      rfl
    rw [path,contentsUrl_of_head r e.head_filePath]
    simp
  · refine ⟨front ++ ['/'],name,⟨by simp [split],unslashed,.inr (by simp)⟩,?_⟩
    have path : e.path (.repository r true) manifest =
        String.ofList (front ++ ['/']) ++ e.filePath := by
      rw [Entry.path_eq,Location.templateRoot,some,Entry.filePath,← Target.path_append,
        String.ofList_append]
    have head : (e.path (.repository r true) manifest).toList.head? ≠ Option.some '/' := by
      rw [split] at first
      rw [path]
      cases front with
      | nil => exact absurd rfl first
      | cons c front => simpa using first
    rw [contentsUrl_of_head r head,path,String.append_assoc]

/-- At the top of the repository a template is asked for where it stands in a folder. -/
theorem contentsUrl_top (manifest : String) (e : Entry) :
    r.contentsUrl (e.path (.repository r false) manifest) = r.contentsUrl "" ++ e.filePath := by
  have path : e.path (.repository r false) manifest = "/" ++ e.filePath := by
    rw [Entry.path_eq,Location.templateRoot,Target.path_append]
    rfl
  have slash : withoutLeadingSlashes ("/" ++ e.filePath).toList =
      withoutLeadingSlashes e.filePath.toList := by
    rw [String.toList_append]
    rfl
  rw [path,← contentsUrl_withoutLeadingSlashes,slash,contentsUrl_withoutLeadingSlashes,
    contentsUrl_of_head r e.head_filePath]

/-- Template files are looked for where the manifest says. The URL of the manifest is the one of the
folder of contents with its path behind it. Beside the manifest the URL of a template is the
manifest's, cut just after its path's last slash, and the template's path below the folder of its kind
behind it. At the top it is the folder of contents and the very path that the template has in a folder
of files, whatever the manifest's path is. -/
theorem contentsUrl_template (manifest : String) (e : Entry) :
    ∃ address path folder name,
      BeforeSlashes r.api.toList address ∧ AfterSlashes manifest.toList path ∧
      CutAfterSlash path folder name ∧
      let contents := String.ofList address ++ "/repos/" ++ r.name ++ "/contents/"
      r.contentsUrl manifest = contents ++ String.ofList folder ++ String.ofList name ∧
      r.contentsUrl (e.path (.repository r true) manifest) =
        contents ++ String.ofList folder ++ e.filePath ∧
      ∀ root other, r.contentsUrl (e.path (.repository r false) manifest) =
        contents ++ e.path (.folder root) other := by
  obtain ⟨folder,name,cut,beside⟩ := r.contentsUrl_beside manifest e
  have contents : r.contentsUrl "" = String.ofList (withoutTrailingSlashes r.api.toList) ++
      "/repos/" ++ r.name ++ "/contents/" := by
    have empty : withoutLeadingSlashes "".toList = [] := rfl
    rw [contentsUrl,empty]
    simp
  have own : r.contentsUrl manifest = r.contentsUrl "" ++ String.ofList folder ++ String.ofList name := by
    have first := (afterSlashes_withoutLeadingSlashes manifest.toList).first
    rw [← contentsUrl_withoutLeadingSlashes,contentsUrl_of_head r (by rwa [String.toList_ofList]),
      cut.whole,String.ofList_append,String.append_assoc]
  refine ⟨_,_,folder,name,beforeSlashes_withoutTrailingSlashes _,
    afterSlashes_withoutLeadingSlashes _,cut,?_⟩
  rw [← contents]
  exact ⟨own,beside,fun _ _ => r.contentsUrl_top manifest e⟩

end Repository
end Placard
