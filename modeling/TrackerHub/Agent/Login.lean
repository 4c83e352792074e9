import TrackerHub.Agent.Basic

/-! # Logging in

An agent logs in with a form of a page, with a request of its own, or with cookies. The login has
failed if the page then shows one of the errors of the definition or does not pass its test.
-/
namespace TrackerHub.Agent

open Text (Chars)

/-- Whether the page passes a test. A test with a path opens it first; the page must then be the one
asked for. -/
def passesTest (a : Agent) (t : PageTest) : Working Bool := do
  if t.isEmpty then return true
  -- Without a page a test without a path needs one: opening a working address gives it.
  if (← session).url?.isNone && t.path.isEmpty then
    let _ ← a.currentUrl
  if !t.path.isEmpty then
    let url ← a.resolve t.path
    if !(← a.tryOpen url) then return false
    -- A site that wants a login sends the browser elsewhere.
    if (← get).url? != some url.toList then return false
  if t.selector.isEmpty then return true
  pageHas t.selector

/-- Whether a login is needed: there is one, and its test does not pass yet. -/
def needsLogin (a : Agent) : Working Bool := do
  let login := a.definition.login
  if !login.declared then return false
  if login.test.isEmpty then return true
  return !(← a.passesTest login.test)

def showsError (e : ErrorBlock) : Working Bool := do
  if e.path.isEmpty && e.selector.isEmpty then return false
  if !e.path.isEmpty then
    let url ← lift .url (Web.Url.parse ((← get).url?.getD []))
    if url.path != e.path.toList then return false
  if e.selector.isEmpty then return true
  pageHas e.selector

def errorText (a : Agent) (e : ErrorBlock) : Working String := do
  let page := (← get).place
  if !e.message.selector.isEmpty || !e.message.text.isEmpty then
    lift .extract (e.message.find page a.now)
  else if e.selector.isEmpty then return ""
  else
    let l ← lift .extract (readSelectors e.selector)
    return String.ofList ((page.selectOne? l).map Page.Place.text |>.getD [])

def checkErrors (a : Agent) : List ErrorBlock → Working Unit
  | [] => return
  | e :: rest => do
    if ← showsError e then
      let words := Text.words (← a.errorText e).toList
      throw (.login (if words.isEmpty then "Login failed"
        else String.ofList (Text.join [' '] words)))
    a.checkErrors rest

def checkSettings (a : Agent) : List Setting → Working Unit
  | [] => return
  | s :: rest => do
    if (a.sites.get? a.definition.site s.name).isNone then
      throw (.noSetting a.definition.site s.name)
    a.checkSettings rest

/-- The inputs of the login, filled in from the settings of the site. -/
def loginInputs (a : Agent) : Except Template.TemplateError (Named String) :=
  let context : Value :=
    .map [(.text "Config", textsValue (a.sites.sectionOf a.definition.site))]
  a.definition.login.inputs.mapM fun (name, source) =>
    (Template.render source context).map fun text => (name, text)

/-- Opens a page, fills its form in and sends it. -/
def loginByForm (a : Agent) (url selector : String) (inputs : Named String) : Working Unit := do
  browse (Web.Session.open a.server url)
  let form ← lift .session ((← get).form selector)
  let form ← lift .session (inputs.foldlM (fun f (name, value) => f.fill name value) form)
  browse (Web.Session.submit a.server form)

def login (a : Agent) : Working Unit := do
  let login := a.definition.login
  if !login.declared then return
  a.checkSettings a.definition.settings
  let url ← a.resolve login.path
  -- An input that cannot be filled in is reported before the login opens a page of its own.
  let inputs ← lift .template a.loginInputs
  match login.method with
  | .post => browse (Web.Session.postForm a.server url inputs)
  | .cookie => browse (Web.Session.setCookies url ((inputs.find? "cookie").getD ""))
  | .form => a.loginByForm url login.form inputs
  a.checkErrors login.errors
  if !(← a.passesTest login.test) then throw (.login "Login check after login failed")

def ensureLogin (a : Agent) : Working Unit := do
  if ← a.needsLogin then a.login

end TrackerHub.Agent
