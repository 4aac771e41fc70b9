import Placard.Proofs.Source.Folder
import Placard.Proofs.Source.Naming

/-! Servers of the contents of repositories, and texts without the marks of their byte order, which is
how what a server answers is read. -/
namespace Placard

def unmarked (text : String) : String :=
  match text.toList with
  | '\uFEFF' :: rest => String.ofList rest
  | _ => text

def Unmarked (text : String) : Prop := text.toList.head? ≠ some '\uFEFF'

theorem unmarked_eq {text : String} (none : Unmarked text) : unmarked text = text := by
  unfold unmarked
  split
  next rest marked => exact absurd (by rw [marked]; rfl) none
  next => rfl

/-- A server answers the requests for the plain paths of a repository: with the text that there is at
the path, and that there is nothing where there is none. -/
def Serves (r : Repository) (send : Request → Except String Response)
    (text? : String → Option String) : Prop :=
  ∀ path, NamePath path → ∃ q body, r.request path = .ok q ∧
    send q = .ok (match text? path with
      | some text => ⟨200,text⟩
      | none => ⟨404,body⟩)

theorem Repository.request_slash (r : Repository) (path : String) :
    r.request ("/" ++ path) = r.request path := by
  have same : r.contentsUrl ("/" ++ path) = r.contentsUrl path := by
    rw [contentsUrl,contentsUrl,String.toList_append]
    rfl
  rw [request,request,same]

open Url

/-- A plain path is clear. -/
theorem NamePath.clear {path : String} (plain : NamePath path) : ClearPath path where
  segments n member := ⟨(plain n member).2,(plain n member).1.here,(plain n member).1.above⟩
  chars c member := by
    rcases plain.char member with rfl | letter
    · decide
    · have visible := Nat.le_of_lt (range_of_isPlain letter).1
      have other (mark : Char) (special : isPlain mark = false) : c ≠ mark :=
        ne_of_isPlain letter special
      simp [visible,other '\\' (by decide),other '?' (by decide),other '#' (by decide),
        other '%' (by decide)]
  last last := plain.not_mem (by decide) (by decide) (List.mem_of_getLast? last)

namespace Site

variable (site : Site)

/-- The request for a plain path names it as it is below the folder of contents. -/
theorem target_plain (branch : String) {path : String} (plain : NamePath path) :
    (site.target branch path).toList = site.folderText.toList ++ path.toList ++
      "?ref=".toList ++ encodeForm branch.toList := by
  have kept : ∀ c ∈ path.toList, keptInPath c := by
    intro c member
    rcases plain.char member with rfl | plain
    · decide
    · exact keptInPath_of_isPlain plain
  rw [target_clear site branch plain.clear,encode_of_kept kept]

def answers (text? : String → Option String) (q : Request) : Except String Response :=
  if site.folderText.toList <+: q.target.toList then
    let path := (q.target.toList.drop site.folderText.length).takeWhile (· ≠ '?')
    match text? (String.ofList path) with
    | some text => .ok ⟨200,text⟩
    | none => .ok ⟨404,""⟩
  else .ok ⟨404,""⟩

theorem serves {token : Option String}
    (sent : (site.proof token).all fun value => value.toList.all Request.isHeaderChar)
    (branch : String) (slashes : Nat) (text? : String → Option String) :
    Serves (site.repository branch token slashes) (site.answers text?) text? := by
  intro path plain
  have made := site.request_eq branch token slashes path
  rw [if_neg (by simpa [Option.all_eq_true,Option.any_eq_true] using sent)] at made
  refine ⟨_,"",made,?_⟩
  have named := site.target_plain branch plain
  have begins : site.folderText.toList <+: (site.target branch path).toList := by
    rw [named,List.append_assoc,List.append_assoc]
    exact List.prefix_append _ _
  have asked : ∀ c ∈ path.toList, decide (c ≠ '?') = true := by
    intro c member
    simp only [decide_eq_true_eq]
    rintro rfl
    exact plain.not_mem (by decide) (by decide) member
  have read : ((site.target branch path).toList.drop site.folderText.length).takeWhile (· ≠ '?') =
      path.toList := by
    rw [named,← String.length_toList,List.append_assoc,List.append_assoc,List.drop_left,
      List.takeWhile_append_of_pos asked]
    simp
  simp only [answers,begins,if_true,read,String.ofList_toList]
  cases text? path <;> rfl

end Site
end Placard
