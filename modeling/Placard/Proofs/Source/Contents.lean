import Placard.Proofs.Result
import Placard.Proofs.Url.Parsing
import Placard.Source.Remote

/-! What a request for the contents of a file asks for. A path leads on from the folder of contents of
the repository; it leaves that folder where it climbs out of it and does not come back. -/
namespace Placard

open Url

structure Site where
  secure : Bool
  host : List Char
  authority : Authority
  /-- The folders that the paths of the interface begin with. -/
  folders : List (List Char)
  owner : List Char
  name : List Char
  whole : ∀ c ∈ host, isHostChar c
  named : Authority.read true (usualPort (webScheme secure)) host = .ok (authority,[])
  names : ∀ n ∈ folders, IsName n ∧ n ≠ []
  ownerPlain : ∀ c ∈ owner, c.isAlphanum ∨ c = '-' ∨ c = '_'
  namePlain : ∀ c ∈ name, c.isAlphanum ∨ c = '-' ∨ c = '_'

namespace Site

variable (site : Site)

theorem isName_of_word {s : List Char} (word : ∀ c ∈ s, c.isAlphanum ∨ c = '-' ∨ c = '_') :
    IsName s where
  plain c member := by
    rcases word c member with letter | rfl | rfl
    · simp [isPlain,letter]
    · rfl
    · rfl
  here := by
    rintro rfl
    exact absurd (word '.' (by simp)) (by decide)
  above := by
    rintro rfl
    exact absurd (word '.' (by simp)) (by decide)

def contents : MachineFolder where
  secure := site.secure
  host := site.host
  authority := site.authority
  folder := site.folders ++ ["repos".toList,site.owner,site.name,"contents".toList]
  whole := site.whole
  named := site.named
  names := List.forall_mem_append.mpr ⟨fun n member => (site.names n member).1,by
    simp only [List.forall_mem_cons]
    exact ⟨by decide,isName_of_word site.ownerPlain,isName_of_word site.namePlain,by decide,
      List.forall_mem_nil _⟩⟩
  some := by simp

def api (slashes : Nat) : String :=
  String.ofList (webScheme site.secure ++ "://".toList ++ site.host ++ slashed site.folders ++
    List.replicate slashes '/')

def repository (branch : String) (token : Option String) (slashes : Nat) : Repository :=
  ⟨String.ofList (site.owner ++ '/' :: site.name),branch,token,site.api slashes⟩

theorem withoutTrailingSlashes_replicate {s : List Char} (last : ∀ c, s.getLast? = some c → c ≠ '/')
    (slashes : Nat) : Repository.withoutTrailingSlashes (s ++ List.replicate slashes '/') = s := by
  have stays : s.reverse.dropWhile (· = '/') = s.reverse := by
    cases back : s.reverse with
    | nil => rfl
    | cons c back =>
      have final : s.getLast? = some c := by rw [List.getLast?_eq_head?_reverse,back]; rfl
      rw [List.dropWhile_cons,if_neg (by simpa using last c final)]
  rw [Repository.withoutTrailingSlashes,List.reverse_append,List.reverse_replicate,
    List.dropWhile_append_of_pos (by simp),stays,List.reverse_reverse]

theorem last_ne_slash {s : List Char} {c : Char}
    (last : (s ++ site.host ++ slashed site.folders).getLast? = some c) : c ≠ '/' := by
  rcases List.eq_nil_or_concat site.folders with none | ⟨front,n,split⟩
  · rw [none,slashed_nil,List.append_nil,List.getLast?_append,
      List.getLast?_eq_some_getLast (host_ne_nil site.named),Option.some_or,Option.some.injEq] at last
    have kept := site.whole c (last ▸ List.getLast_mem _)
    rintro rfl
    exact absurd kept (by decide)
  · obtain ⟨name,some⟩ := site.names n (by simp [split])
    rw [split,List.concat_eq_append,slashed_append,slashed_cons,slashed_nil,List.append_nil,
      ← List.append_assoc,← List.singleton_append,← List.append_assoc,List.getLast?_append,
      List.getLast?_eq_some_getLast some,Option.some_or,Option.some.injEq] at last
    exact ne_of_isPlain (name.plain c (last ▸ List.getLast_mem _)) (by decide)

/-- The URL for a path stands after that of the folder of contents. -/
theorem contentsUrl_eq (branch : String) (token : Option String) (slashes : Nat) (path : String) :
    (site.repository branch token slashes).contentsUrl path =
      String.ofList (site.contents.text ++ withoutLeadingSlashes path.toList) := by
  have front := withoutTrailingSlashes_replicate
    (fun c => @site.last_ne_slash (webScheme site.secure ++ "://".toList) c) slashes
  rw [← String.toList_inj]
  simp only [Repository.contentsUrl,repository,api,String.toList_append,String.toList_ofList,front]
  simp [MachineFolder.text,MachineFolder.place,MachineFolder.scheme,contents]

def walk (path : String) : Walk :=
  Walk.start.along (endSegments (withoutLeadingSlashes path.toList))

end Site

theorem Url.withoutAccount_path (u : Url) : u.withoutAccount.2.path = u.path := by
  unfold withoutAccount
  split <;> rfl

theorem Url.withoutAccount_query (u : Url) : u.withoutAccount.2.query = u.query := by
  unfold withoutAccount
  split <;> rfl

def Url.queryWith (query : Option (List Char)) (name value : String) : List Char :=
  let field := encodeForm name.toList ++ '=' :: encodeForm value.toList
  match query with
  | none => field
  | some [] => field
  | some fields => fields ++ '&' :: field

theorem Url.target_withField {u : Url} {segments : List (List Char)} (path : u.path = .steps segments)
    (name value : String) :
    (u.withField name value).target =
      String.ofList (slashed segments ++ '?' :: queryWith u.query name value) := by
  have query : (u.withField name value).query = some (queryWith u.query name value) := by
    obtain ⟨_,_,_,query,_⟩ := u
    rcases query with _ | _ | ⟨_,_⟩ <;> rfl
  have same : (u.withField name value).path = .steps segments := path
  rw [target,pathText,queryText,query,same]
  rfl

namespace Site

variable (site : Site)

def target (branch path : String) : String :=
  String.ofList (slashed ((walk path).place site.contents.folder) ++
    '?' :: queryWith (site.contents.url (withoutLeadingSlashes path.toList)).query "ref" branch)

def proof (token : Option String) : Option String :=
  (site.repository "" token 0).authorization site.authority.account.credentials?

theorem withoutAccount_url (tail : List Char) :
    (site.contents.url tail).withoutAccount.1 = site.authority.account.credentials? := by
  have bound : (site.contents.url tail).authority.bind (·.account.credentials?) =
      site.authority.account.credentials? := rfl
  unfold withoutAccount
  rw [bound]
  cases site.authority.account.credentials? <;> rfl

/-- A request is made unless its header has controls in it. -/
theorem request_eq (branch : String) (token : Option String) (slashes : Nat) (path : String) :
    (site.repository branch token slashes).request path =
      if (site.proof token).any fun value => !value.toList.all Request.isHeaderChar then
        .error .badHeader
      else .ok ⟨site.target branch path,(site.proof token).map Request.sent⟩ := by
  have host : (site.contents.url (withoutLeadingSlashes path.toList)).hasHost = true := by
    simpa [hasHost,MachineFolder.url] using host_ne_blank site.contents.named
  have scheme : ((site.contents.url (withoutLeadingSlashes path.toList)).withoutAccount.2.withField
      "ref" branch).scheme = webScheme site.secure := by
    unfold withoutAccount
    split <;> rfl
  have web : ¬ (webScheme site.secure ≠ "http".toList ∧ webScheme site.secure ≠ "https".toList) := by
    cases site.secure <;> decide
  have target : ((site.contents.url (withoutLeadingSlashes path.toList)).withoutAccount.2.withField
      "ref" branch).target = site.target branch path := by
    rw [Url.target_withField ((withoutAccount_path _).trans rfl),withoutAccount_query]
    rfl
  rw [Repository.request,contentsUrl_eq,site.contents.parse_text]
  have named : (site.repository branch token slashes).branch = branch := rfl
  have proof : (site.repository branch token slashes).authorization
      (site.contents.url (withoutLeadingSlashes path.toList)).withoutAccount.1 = site.proof token := by
    rw [withoutAccount_url]
    rfl
  simp only [mapError_ok,Bind.bind,Except.bind,host,named,proof,scheme,target,if_neg web,
    Bool.not_true,Bool.false_eq_true,if_false]
  split <;> rfl

def folderText : String :=
  String.ofList (slashed site.folders ++ "/repos/".toList ++ site.owner ++ '/' :: site.name ++
    "/contents/".toList)

theorem folderText_eq : site.folderText.toList = slashed site.contents.folder ++ ['/'] := by
  simp [folderText,contents]

/-- A request stays with its repository just if its path comes down again by the names that it has
climbed out of, and further. -/
theorem target_within_iff (branch path : String) :
    site.folderText.toList <+: (site.target branch path).toList ↔
      ∃ more, more ≠ [] ∧
        (walk path).down = (walk path).climbed site.contents.folder ++ more := by
  have plain {mark : Char} (other : isPlain mark = false) (n : List Char)
      (member : n ∈ site.contents.folder) : mark ∉ n :=
    not_mem_of_isName (site.contents.names n member) other
  have unslashed : ∀ s ∈ (walk path).place site.contents.folder, '/' ∉ s := by
    refine List.forall_mem_append.mpr ⟨fun n member => ?_,?_⟩
    · exact plain (by decide) n (List.mem_of_mem_take member)
    · exact Walk.unslashed_along (fun s => not_mem_of_mem_splitOn) (List.forall_mem_nil _)
  rw [folderText_eq,target,String.toList_ofList,slashed_prefix_iff (plain (by decide))
    (plain (by decide)) unslashed]
  · simp only [Walk.place_eq_append_iff]
  · rintro c ⟨⟩
    rfl

/-- A path that leads back no more often than into folders stays. -/
theorem target_within_of_stays (branch : String) {path : String}
    (stays : Walk.Stays (endSegments (withoutLeadingSlashes path.toList))) :
    site.folderText.toList <+: (site.target branch path).toList := by
  have up : (walk path).up = 0 := Walk.up_along_of_stays rfl (Nat.zero_le 0)
    fun front begins => by simpa using stays front begins
  refine (site.target_within_iff branch path).mpr ⟨(walk path).down,?_,?_⟩
  · exact Walk.down_along _ (List.splitOn_ne_nil _ _)
  · rw [Walk.climbed_of_up_eq_zero up,List.nil_append]

variable {site}

/-- Whatever is asked of the repository, the request for it stays below the folder of its contents just
if its path comes down again by the names that it has climbed out of; it does if the path leads back
no more often than into folders. -/
theorem request_within {branch : String} {token : Option String} {slashes : Nat} {path : String}
    {q : Request} (made : (site.repository branch token slashes).request path = .ok q) :
    (site.folderText.toList <+: q.target.toList ↔ ∃ more, more ≠ [] ∧
      (walk path).down = (walk path).climbed site.contents.folder ++ more) ∧
    (Walk.Stays (endSegments (withoutLeadingSlashes path.toList)) →
      site.folderText.toList <+: q.target.toList) := by
  have target : q.target = site.target branch path := by
    by_cases controls : (site.proof token).any fun value => !value.toList.all Request.isHeaderChar
    · rw [request_eq,if_pos controls] at made
      contradiction
    · rw [request_eq,if_neg controls] at made
      rw [← Except.ok.inj made]
  rw [target]
  exact ⟨site.target_within_iff branch path,site.target_within_of_stays branch⟩

def templates : Site where
  secure := false
  host := "127.0.0.1:1".toList
  authority := ⟨.nobody,.addressed (.short 0x7F000001),some 1⟩
  folders := []
  owner := "octo".toList
  name := "templates".toList
  whole := Text.forall_of_all (by decide)
  named := by
    have read : (Authority.read true (usualPort (webScheme false)) "127.0.0.1:1".toList).toOption =
        some (⟨.nobody,.addressed (.short 0x7F000001),some 1⟩,[]) := by
      decide +kernel
    exact toOption_eq_some_iff.mp read
  names := List.forall_mem_nil _
  ownerPlain := Text.forall_of_all (by decide)
  namePlain := Text.forall_of_all (by decide)

theorem templates_request (path : String) :
    (templates.repository "main" (some "t") 0).request path =
      .ok ⟨templates.target "main" path,some "Bearer t"⟩ := by
  rw [request_eq]
  rfl

/-- A path with dots in it that stays in the folder of contents. -/
theorem request_within_back_to_folder : templates.folderText.toList <+:
    (templates.target "main" "card/../liquid").toList :=
  (request_within (templates_request "card/../liquid")).2 (by decide +kernel)

/-- A path that climbs out of the repository, and the token with it. -/
theorem request_leaves_with_token :
    (templates.repository "main" (some "t") 0).request "../../../../user" =
      .ok ⟨"/user?ref=main",some "Bearer t"⟩ ∧
    templates.folderText = "/repos/octo/templates/contents/" ∧
    ¬ templates.folderText.toList <+: "/user?ref=main".toList := by
  have evaluated : templates.target "main" "../../../../user" = "/user?ref=main" ∧
      templates.folderText = "/repos/octo/templates/contents/" := by
    decide +kernel
  rw [templates_request,evaluated.1,evaluated.2]
  exact ⟨rfl,rfl,by decide⟩

end Site
end Placard
