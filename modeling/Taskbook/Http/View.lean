/-
A task book seen over HTTP. The view shows and never runs anything.

There are five kinds of pages: the entrance, the list of the paths that can be
called, one task, what a path resolves to, and a sign of life. A page answers to
`GET` alone. An address with slashes too many at its end, or with one too few, is
sent on to the page that is meant.

What a path resolves to and what is said about the task at it come from the same
look-up, so the two pages cannot contradict each other: a path without a task is
missing from both with the same words, and a disabled task is shown as such and
refused when it is to be resolved.
-/
import Taskbook.Book.Entries
import Taskbook.Http.Query

set_option autoImplicit false

namespace Taskbook.Http

/-- The view of a book, under a title (`create_app`). -/
structure App where
  book : Book
  title : String := "Contract Tasks API"
  version : String := "0.1.0"

/-- What a view cannot do without. -/
inductive AppError where
  | noTitle
  | noVersion
  deriving DecidableEq, Repr

/-- The wording of a missing part. -/
def AppError.message : AppError → String
  | noTitle => "A title must be provided for OpenAPI, e.g.: 'My API'"
  | noVersion => "A version must be provided for OpenAPI, e.g.: '2.1.0'"

/-- The view, if its title and its version say something; the title is looked at
first. -/
def App.complete (app : App) : Except AppError App :=
  if app.title = "" then .error .noTitle
  else if app.version = "" then .error .noVersion
  else .ok app

/-- A request; the path has its percent signs read, the query has not. -/
structure Request where
  method : String := "GET"
  host : String
  path : String
  query : String := ""
  deriving DecidableEq, Repr

/-- The pages. -/
inductive Page where
  | entrance
  | tasks
  | task (path : String)
  | resolve (path : String)
  | health
  deriving DecidableEq, Repr

/-- What is told about a task (`TaskInfo`). -/
structure TaskInfo where
  path : String
  command : Option String
  default : List String
  children : List String
  enabled : Bool
  description : Option String
  tags : List String
  deriving DecidableEq, Repr

/-- What is sent back. -/
inductive Body where
  /-- The title, the version, and the addresses of the pages by name. -/
  | entrance (title version : String) (addresses : List (String × String))
  | tasks (paths : List String)
  | task (info : TaskInfo)
  /-- The command line that a path resolves to, and the sub-tasks it runs. -/
  | resolved (path command : String) (sequence : List String)
  | healthy
  /-- Why there is nothing else to send. -/
  | detail (text : String)
  /-- The flag `name` has a value that means nothing. -/
  | invalidFlag (name value : String)
  | empty
  deriving DecidableEq, Repr

/-- The answer to a request. -/
structure Response where
  status : Nat
  body : Body
  /-- The address to go to instead. -/
  location : Option String := none
  deriving DecidableEq, Repr

/-! ## Addresses -/

/-- The rest of a text after the given beginning. -/
def after? (start text : List Char) : Option (List Char) :=
  if start.isPrefixOf text then some (text.drop start.length) else none

/-- One segment of an address, behind the given beginning: not empty, and without
a slash. -/
def segmentAfter? (start : String) (path : String) : Option String :=
  match after? start.toList path.toList with
  | some segment =>
    if segment.isEmpty || segment.contains '/' then none else some (String.ofList segment)
  | none => none

/-- The page with a fixed address. A line end after the address does not
matter. -/
def fixedPage? (path : String) : Option Page :=
  match Text.withoutLineEnd path with
  | "/" => some .entrance
  | "/tasks" => some .tasks
  | "/health" => some .health
  | _ => none

/-- The page at an address. -/
def Page.at? (path : String) : Option Page :=
  match fixedPage? path with
  | some page => some page
  | none =>
    match segmentAfter? "/tasks/" path with
    | some segment => some (.task segment)
    | none => (segmentAfter? "/resolve/" path).map .resolve

/-- The address that is meant by one that leads nowhere: without the slashes at
its end, or with one if it has none. -/
def meantPath (path : String) : String :=
  match path.toList.reverse with
  | '/' :: rest => String.ofList (rest.dropWhile (· == '/')).reverse
  | _ => path ++ "/"

/-- The characters that the path of an address keeps as they are. A question mark
and a number sign are not among them, because they would end the path. -/
def pathMarks : List Char := ":/%=@[]!$&'()*+,;".toList

/-- The characters that a query keeps as they are. -/
def queryMarks : List Char := '?' :: '#' :: pathMarks

/-- The whole address of a path on a host. -/
def address (host path query : String) : String :=
  "http://" ++ Text.percentEncode pathMarks (host ++ path) ++
    (if query = "" then "" else "?" ++ Text.percentEncode queryMarks query)

/-! ## Pages -/

/-- The flag that asks for the disabled tasks too. -/
def disabledFlag : String := "include_disabled"

/-- Where the pages are. -/
def addresses : List (String × String) := [
  ("tasks", "/tasks"), ("task", "/tasks/\x7bpath\x7d"), ("resolve", "/resolve/\x7bpath\x7d")]

/-- What is told about a task asked for at `path`. -/
def TaskInfo.ofTask (path : String) (task : Task) : TaskInfo where
  path := path
  command := task.text?
  default := (task.default?.map Sequence.names).getD []
  children := task.children.keys
  enabled := task.enabled
  description := task.label.description
  tags := task.label.tags

namespace App

/-- The list of the paths that can be called (`list_tasks`). -/
def listPage (app : App) (query : String) : Response :=
  match flag disabledFlag query with
  | .ok withDisabled => { status := 200, body := .tasks (app.book.paths withDisabled) }
  | .error value => { status := 422, body := .invalidFlag disabledFlag value }

/-- The task at a path (`get_task_info`). -/
def taskPage (app : App) (path : String) : Response :=
  match app.book.find (Path.ofDotted path) with
  | .ok task => { status := 200, body := .task (.ofTask path task) }
  | .error error => { status := 404, body := .detail error.message }

/-- What a path resolves to (`resolve`). -/
def resolvePage (app : App) (path : String) : Response :=
  match app.book.resolve (Path.ofDotted path) with
  | .ok (.command text) => { status := 200, body := .resolved path text [] }
  | .ok (.sequence sequence) =>
    { status := 200, body := .resolved path (sequence.render path) sequence.names }
  | .error error =>
    { status := if error.isDisabled then 409 else 404, body := .detail error.message }

/-- What is shown on a page. -/
def render (app : App) (query : String) : Page → Response
  | .entrance => { status := 200, body := .entrance app.title app.version addresses }
  | .tasks => app.listPage query
  | .task path => app.taskPage path
  | .resolve path => app.resolvePage path
  | .health => { status := 200, body := .healthy }

/-- The answer to a request. -/
def answer (app : App) (request : Request) : Response :=
  match Page.at? request.path with
  | some page =>
    if request.method = "GET" then app.render request.query page
    else { status := 405, body := .detail "Method Not Allowed" }
  | none =>
    let meant := meantPath request.path
    if (Page.at? meant).isSome then
      { status := 307, body := .empty, location := some (address request.host meant request.query) }
    else { status := 404, body := .detail "Not Found" }

end App

end Taskbook.Http
