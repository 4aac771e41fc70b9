import Placard.Proofs.Source.Contents
import Placard.Proofs.Url.Decoding

/-! What a request names. The target of a request for a clear path is the folder of contents, then the
path and at last the branch, each encoded so that it can be read back; so no two of them are asked for
by one target. -/
namespace Placard

open Url

/-- A path of segments in any script. None of its characters means anything in a URL but itself, once it
is encoded, and none is lost at the end of one. -/
structure ClearPath (path : String) : Prop where
  /-- No segment is empty, so there is no slash at the front, and none leads nowhere or back. -/
  segments : ∀ s ∈ path.toList.splitOn '/', s ≠ [] ∧ s ≠ ['.'] ∧ s ≠ ['.','.']
  chars : ∀ c ∈ path.toList, 0x20 ≤ c.toNat ∧ c ∉ ['\\','?','#','%']
  last : path.toList.getLast? ≠ some ' '

namespace ClearPath

variable {path : String} (clear : ClearPath path)
include clear

theorem withoutLeadingSlashes_toList : withoutLeadingSlashes path.toList = path.toList :=
  withoutLeadingSlashes_of_head (head_ne_slash_of_filled fun s member => (clear.segments s member).1)

theorem unmarked : '%' ∉ path.toList := fun member => (clear.chars '%' member).2 (by simp)

/-- Its segments are entered, not left. -/
theorem entered : ∀ s ∈ path.toList.splitOn '/', isAbove s = false ∧ isHere s = false := by
  intro s member
  have within : '%' ∉ s := by
    intro percent
    have spelled : '%' ∈ slashed (path.toList.splitOn '/') :=
      List.mem_flatMap.mpr ⟨s,member,List.mem_cons_of_mem _ percent⟩
    rw [slashed_splitOn] at spelled
    rcases List.mem_cons.mp spelled with slash | inside
    · exact absurd slash (by decide)
    · exact clear.unmarked inside
  obtain ⟨-,here,above⟩ := clear.segments s member
  rw [isAbove,isHere,plainDots_of_not_mem within]
  exact ⟨decide_eq_false above,decide_eq_false here⟩

theorem endSegments_toList : endSegments path.toList = path.toList.splitOn '/' ∧
    endQuery path.toList = none := by
  apply end_of_clear
  · intro c member
    obtain ⟨visible,plain⟩ := clear.chars c member
    simp only [List.mem_cons,List.not_mem_nil,or_false,not_or] at plain ⊢
    exact ⟨visible,plain.1,plain.2.1,plain.2.2.1⟩
  · exact clear.last

/-- What is written for the path is read back as the path. -/
theorem decoded?_encode : decoded? (encode keptInPath path.toList) = some path :=
  Url.decoded?_encode fun _ member _ percent => clear.unmarked (percent ▸ member)

end ClearPath

/-- No path is written with the mark of a query. -/
theorem mark_not_mem_encode (s : List Char) : '?' ∉ encode keptInPath s :=
  not_mem_encode (by decide) (by decide) fun _ => by decide

namespace Site

variable (site : Site)

theorem walk_clear {path : String} (clear : ClearPath path) :
    walk path = ⟨0,(path.toList.splitOn '/').map (encode keptInPath)⟩ := by
  rw [walk,clear.withoutLeadingSlashes_toList,clear.endSegments_toList.1,
    Walk.along_entered clear.entered (List.splitOn_ne_nil _ _)]
  rfl

/-- The target of a request for a clear path: the folder of contents, the path and the branch. -/
theorem target_clear (branch : String) {path : String} (clear : ClearPath path) :
    (site.target branch path).toList = site.folderText.toList ++ encode keptInPath path.toList ++
      "?ref=".toList ++ encodeForm branch.toList := by
  have query : (site.contents.url (withoutLeadingSlashes path.toList)).query = none := by
    rw [clear.withoutLeadingSlashes_toList,MachineFolder.url,clear.endSegments_toList.2]
    rfl
  have segments : slashed ((path.toList.splitOn '/').map (encode keptInPath)) =
      '/' :: encode keptInPath path.toList := by
    rw [← encode_slashed (by decide),slashed_splitOn]
    rfl
  have field : encodeForm "ref".toList = "ref".toList := by decide
  rw [target,String.toList_ofList,walk_clear clear,query,Walk.place,Nat.sub_zero,List.take_length,
    slashed_append,segments,folderText_eq,queryWith,field]
  simp

/-- A target tells the path and the branch that are asked for. -/
theorem target_injective {branch branch' path path' : String} (clear : ClearPath path)
    (clear' : ClearPath path') (same : site.target branch path = site.target branch' path') :
    branch = branch' ∧ path = path' := by
  have cut (branch path : String) :
      cutFirst '?' (encode keptInPath path.toList ++ ("?ref=".toList ++ encodeForm branch.toList)) =
        (encode keptInPath path.toList,some ("ref=".toList ++ encodeForm branch.toList)) := by
    rw [cutFirst_append (mark_not_mem_encode _)]
    simp [cutFirst]
  have spelled := congrArg String.toList same
  rw [target_clear site branch clear,target_clear site branch' clear'] at spelled
  simp only [List.append_assoc,List.append_cancel_left_eq] at spelled
  have parts := congrArg (cutFirst '?') spelled
  rw [cut,cut,Prod.mk.injEq,Option.some.injEq,List.append_cancel_left_eq] at parts
  obtain ⟨paths,branches⟩ := parts
  constructor
  · have read := congrArg decodedForm? branches
    rw [decodedForm?_encodeForm,decodedForm?_encodeForm] at read
    exact Option.some.inj read
  · have read := congrArg decoded? paths
    rw [clear.decoded?_encode,clear'.decoded?_encode] at read
    exact Option.some.inj read

variable {site}

theorem target_of_request {branch : String} {token : Option String} {slashes : Nat} {path : String}
    {q : Request} (made : (site.repository branch token slashes).request path = .ok q) :
    q.target = site.target branch path := by
  rw [request_eq] at made
  split at made
  · cases made
  · rw [← Except.ok.inj made]

/-- The request for a clear path is made, and its target is that of the folder of contents with the
path and the branch behind it, in a form that both can be read back from; the path's holds no mark of a
query. A request with the same target is for the same path on the same branch. -/
theorem request_names {token : Option String}
    (sent : (site.proof token).all fun value => value.toList.all Request.isHeaderChar)
    (branch : String) (slashes : Nat) {path : String} (clear : ClearPath path) :
    ∃ q, (site.repository branch token slashes).request path = .ok q ∧
      (∃ pathText branchText : List Char,
        q.target = site.folderText ++ String.ofList pathText ++ "?ref=" ++ String.ofList branchText ∧
        '?' ∉ pathText ∧ decoded? pathText = some path ∧ decodedForm? branchText = some branch) ∧
      ∀ branch' token' slashes' path' q', ClearPath path' →
        (site.repository branch' token' slashes').request path' = .ok q' → q'.target = q.target →
        branch' = branch ∧ path' = path := by
  have made := site.request_eq branch token slashes path
  rw [if_neg (by simpa [Option.all_eq_true,Option.any_eq_true] using sent)] at made
  refine ⟨_,made,⟨_,_,?_,mark_not_mem_encode _,clear.decoded?_encode,decodedForm?_encodeForm branch⟩,?_⟩
  · rw [← String.toList_inj,target_clear site branch clear]
    simp
  · intro branch' token' slashes' path' q' clear' made' same
    rw [target_of_request made'] at same
    exact site.target_injective clear' clear same

theorem clear_about : ClearPath "Über uns/50+1 \x7bx\x7d.hbs" where
  segments := by decide
  chars := Text.forall_of_all (by decide)
  last := by decide

/-- A path and a branch with what has to be encoded in either. -/
theorem request_names_encoded_path :
    ∃ q, (templates.repository "a&b c" (some "t") 2).request "Über uns/50+1 \x7bx\x7d.hbs" = .ok q ∧
      (∃ pathText branchText : List Char,
        q.target = templates.folderText ++ String.ofList pathText ++ "?ref=" ++
          String.ofList branchText ∧
        '?' ∉ pathText ∧ decoded? pathText = some "Über uns/50+1 \x7bx\x7d.hbs" ∧
        decodedForm? branchText = some "a&b c") ∧
      ∀ branch' token' slashes' path' q', ClearPath path' →
        (templates.repository branch' token' slashes').request path' = .ok q' →
        q'.target = q.target → branch' = "a&b c" ∧ path' = "Über uns/50+1 \x7bx\x7d.hbs" :=
  request_names (by decide) "a&b c" 2 clear_about

end Site
end Placard
