import Placard.Handlebars.Template
import Placard.Handlebars.Standard
import Placard.Extension

/-! Rendering. A call goes to the registered helper of its name, or else to the standard one; a name
without arguments is a call only if such a helper exists. -/
namespace Placard.Handlebars

structure Settings where
  /-- A path that leads nowhere is an error. -/
  strict : Bool
  /-- The registered helpers. -/
  helpers : List (String × Helper)

inductive Callee where
  | registered (h : Helper)
  | standard (s : Standard)

/-- A test answers yes or no. -/
def Callee.isTest : Callee → Bool
  | .standard (.function f) => f.isTest
  | _ => false

def Settings.callee? (s : Settings) (name : String) : Option Callee :=
  match s.helpers.lookup name with
  | some h => some (.registered h)
  | none => (Standard.named? name).map .standard

/-- Where no helper has the name, one registered for that case may stand in. -/
def Settings.callee (s : Settings) (substitute name : String) : Except Reason Callee :=
  match (s.callee? name).or (s.callee? substitute) with
  | some c => .ok c
  | none => .error (.unknownHelper name)

def substituteHelper : String := "helperMissing"
def substituteBlockHelper : String := "blockHelperMissing"

def callRegistered (h : Helper) (call : Applied) : Except Reason Json :=
  (h ((call.placed.head?.map Found.get).getD .null) call.named).mapError (.refused call.name)

/-- The value of a call within a term. A control has no body there, so it gives an empty text. -/
def callValue (s : Settings) (scope : Scope) (call : Applied) :
    Callee → Except Reason (Option Json)
  | .registered h => (callRegistered h call).map some
  | .standard (.function f) => f.apply s.strict call.placed
  | .standard (.control c) =>
    (c.plan s.strict scope [] ⟨false, false⟩ call).map fun _ => some (.str "")

mutual

def findTerm (s : Settings) (scope : Scope) : Term → Except Reason Found
  | .literal v => .ok (.here v)
  | .path p => (scope.find p).map fun v => ⟨v, some p.written⟩
  | .call name placed named => do
    let placed ← findTerms s scope placed
    let named ← findNamed s scope named
    let callee ← s.callee substituteHelper name
    let v ← callValue s scope ⟨name, placed, named⟩ callee
    return ⟨v, none⟩

def findTerms (s : Settings) (scope : Scope) : List Term → Except Reason (List Found)
  | [] => .ok []
  | t :: rest => do
    let f ← findTerm s scope t
    let fs ← findTerms s scope rest
    return f :: fs

def findNamed (s : Settings) (scope : Scope) :
    List (String × Term) → Except Reason (List (String × Json))
  | [] => .ok []
  | (name, t) :: rest => do
    let f ← findTerm s scope t
    let fs ← findNamed s scope rest
    return (name, f.get) :: fs

end

def Call.find (s : Settings) (scope : Scope) (c : Call) : Except Reason Applied := do
  let placed ← findTerms s scope c.placed
  let named ← findNamed s scope c.named
  return ⟨c.name, placed, named⟩

/-- The text of a value; in strict mode there has to be one. -/
def textOf (strict : Bool) (written : Option String) : Option Json → Except Reason String
  | some v => .ok (printed v)
  | none => if strict then .error (.missing written) else .ok ""

def printCall (s : Settings) (scope : Scope) (call : Applied) (callee : Callee) :
    Except Reason Printed := do
  let v ← callValue s scope call callee
  let text ← textOf s.strict none v
  return if callee.isTest then .bare text else .text text

def printHelper (s : Settings) (scope : Scope) (call : Applied) : Except Reason Printed := do
  let callee ← s.callee substituteHelper call.name
  printCall s scope call callee

/-- What is printed for a term alone: the helper that it names is called, else it is the value. -/
def printTerm (s : Settings) (scope : Scope) (t : Term) : Except Reason Printed := do
  let name ← match t with
    | .path p => pure p.written
    | t => (findTerm s scope t).map fun f => printed f.get
  match s.callee? name with
  | some callee => printCall s scope ⟨name, [], []⟩ callee
  | none =>
    let f ← findTerm s scope t
    match f.value, s.helpers.lookup substituteHelper with
    | none, some h =>
      if s.strict then .error (.missing f.written)
      else printCall s scope ⟨name, [], []⟩ (.registered h)
    | v, _ => (textOf s.strict f.written v).map .text

/-- A body if the value counts as true, else the other branch. -/
def planTest (scope : Scope) (value : Option Json) : Plan :=
  if isTrue false (value.getD .null) then .body [scope] else .inverse

/-- What becomes of a block: a text of its own, or a plan for its body. -/
def planBlock (s : Settings) (scope : Scope) (c : Call) (binders : List String) (shape : Shape) :
    Except Reason (Printed ⊕ Plan) := do
  let call ← c.find s scope
  match ← s.callee substituteBlockHelper c.name with
  | .standard (.control control) =>
    (control.plan s.strict scope binders shape call).map .inr
  | .standard (.function f) =>
    if f.isTest then (f.apply s.strict call.placed).map fun v => .inr (planTest scope v)
    else (printCall s scope call (.standard (.function f))).map .inl
  | callee => (printCall s scope call callee).map .inl

structure Embedding where
  name : String
  scope : Scope

/-- An embedded template sees all that its place sees. Its base is the first argument, if there is
one, and the named arguments are bound like a block's values. -/
def planEmbed (s : Settings) (scope : Scope) (current : Option String) (name : Term) (c : Call) :
    Except Reason Embedding := do
  let name ← (findTerm s scope name).map fun f => printed f.get
  let call ← c.find s scope
  if current = some name then .error .embedsItself
  else
    let base := match call.placed with
      | f :: _ => f.get
      | [] => scope.base 0
    return ⟨name, scope.push ⟨base, scope.counters, call.named⟩⟩

def planDecorator (s : Settings) (scope : Scope) (c : Call) : Except Reason String := do
  let call ← c.find s scope
  .error (.unknownDecorator call.name)

def blamed (place : Option Position) (r : Except Reason α) : Except Stop α :=
  r.mapError fun reason => .failed ((Failure.of reason).within place)

/-- How the templates of other ids are rendered. -/
abbrev Others := String → Scope → Page → Except Stop Page

def eachIn (branch : Scope → Page → Except Stop Page) (scopes : List Scope) (page : Page) :
    Except Stop Page :=
  scopes.foldlM (fun page scope => branch scope page.withoutTemplate) page

def within (page : Page) (owesIndent : Bool) (render : Page → Except Stop Page) :
    Except Stop Page :=
  (render (page.enter owesIndent)).map (·.leave page.owesIndent page.grew)

/-- Renders an embedded template, which is indented further. -/
def embedAt (others : Others) (e : Embedding) (opensLine : Bool) (indent : String) (page : Page) :
    Except Stop Page :=
  within page (opensLine && (page.lineEnded || indent != "")) fun inner =>
    (others e.name e.scope { inner with indent := page.indent ++ indent }).map fun done =>
      { done with indent := page.indent, template := page.template }

mutual

def renderNode (s : Settings) (others : Others) (scope : Scope) (page : Page) :
    Node → Except Stop Page
  | .text t => .ok (page.write t)
  | .value place t => (blamed (some place) (printTerm s scope t)).map page.print
  | .call place c =>
    (blamed (some place) ((c.find s scope).bind (printHelper s scope))).map page.print
  | .block place c binders opensLine body inverse =>
    within page (page.owesIndent || (opensLine && page.lineEnded)) fun page =>
      match blamed place (planBlock s scope c binders ⟨true, inverse.isSome⟩) with
      | .error f => .error f
      | .ok (.inl t) => .ok (page.print t)
      | .ok (.inr plan) =>
        let rendered : Except Stop Page := match plan with
          | .nothing => .ok page
          | .body scopes => eachIn (renderNodes s others body) scopes page
          | .inverse => renderInverse s others scope page inverse
        rendered.mapError (Stop.within place)
  | .decorator place c => (blamed (some place) (planDecorator s scope c)).map page.write
  | .embed place name c opensLine indent =>
    match blamed (some place) (planEmbed s scope page.template name c) with
    | .error f => .error f
    | .ok e => (embedAt others e opensLine indent page).mapError (Stop.within (some place))

def renderNodes (s : Settings) (others : Others) :
    List Node → Scope → Page → Except Stop Page
  | [], _, page => .ok page
  | n :: rest, scope, page => do
    let page ← renderNode s others scope page n
    renderNodes s others rest scope page

def renderInverse (s : Settings) (others : Others) (scope : Scope) (page : Page) :
    Option (List Node) → Except Stop Page
  | none => .ok page
  | some nodes => renderNodes s others nodes scope page.withoutTemplate

end

/-- Embeddings are followed to this depth and taken to be endless beyond it. The engine has no limit. -/
def embedLimit : Nat := 400

/-- Renders a template of the table in a scope. -/
def renderIn (s : Settings) (templates : List (String × Template)) :
    Nat → String → Scope → Page → Except Stop Page
  | 0, _, _, _ => .error .endless
  | fuel + 1, id, scope, page =>
    match templates.lookup id with
    | none => .error (.failed (.of (.unknownEmbedded id)))
    | some t =>
      (renderNodes s (renderIn s templates fuel) t scope { page with template := some id }).mapError
        (Stop.ofTemplate id)

def render (s : Settings) (templates : List (String × Template)) (id : String) (data : Json) :
    Except Stop String :=
  (renderIn s templates embedLimit id (.ofData data) (.blank id)).map Page.text

end Placard.Handlebars
