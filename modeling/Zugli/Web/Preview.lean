import Zugli.Lib.Timers
import Zugli.Web.Layouts

/-!
# The live preview of the editor

The driver that posts the working layout while the editor is open: at once when it opens, some
time after each edit, and at a steady interval. One request is in flight at a time; what comes up
meanwhile is queued. Around it stand the handlers of the editor that call it, and the answers they
wait for, in any order.
-/

namespace Zugli.Web

open Js (Str Timers)

/-- A request about the preview. -/
inductive PreviewPost where
  /-- `POST /preview` with its body. -/
  | preview (body : Str)
  /-- `POST /preview/end`. -/
  | previewEnd
deriving DecidableEq

/-- The variables of `createPreviewDriver`. -/
structure Driver where
  /-- `inFlight`. -/
  inFlight : Bool
  /-- `queued`. -/
  queued : Bool
  /-- `debounce`, the handle of the last timeout, or zero. -/
  debounce : Nat
  /-- `keep`, the handle of the last interval, or zero. -/
  keep : Nat
  /-- The timers it set. -/
  timers : Timers
  /-- The bodies of its `POST /preview` requests without an answer. -/
  posts : List Str
deriving DecidableEq

namespace Driver

/-- `createPreviewDriver`. -/
def create : Driver where
  inFlight := false
  queued := false
  debounce := 0
  keep := 0
  timers := .idle
  posts := []

variable (driver : Driver) (layout : List Element)

/-- `flush`, up to its request, with what `getLayout` returns. -/
def flush : Driver × List PreviewPost :=
  if driver.inFlight then ({ driver with queued := true }, [])
  else
    let body := serializeLayout layout
    ({ driver with inFlight := true, queued := false, posts := driver.posts ++ [body] },
      [.preview body])

/-- The rest of `flush`, once its request is answered or has failed. -/
def settle (index : Nat) : Driver × List PreviewPost :=
  if index < driver.posts.length then
    let settled := { driver with posts := driver.posts.eraseIdx index, inFlight := false }
    if settled.queued then settled.flush layout else (settled, [])
  else (driver, [])

/-- `open`. -/
def openDriver : Driver × List PreviewPost :=
  let (flushed, posts) := driver.flush layout
  ({ flushed with keep := flushed.timers.handle, timers := flushed.timers.setInterval }, posts)

/-- `edit`. -/
def edit : Driver :=
  let cleared := driver.timers.clear driver.debounce
  { driver with debounce := cleared.handle, timers := cleared.setTimeout }

/-- `close`. -/
def close : Driver × List PreviewPost :=
  ({ driver with
      timers := (driver.timers.clear driver.keep).clear driver.debounce
      keep := 0
      debounce := 0 }, [.previewEnd])

/-- A timeout of the driver fires. -/
def elapse (handle : Nat) : Driver × List PreviewPost :=
  if handle ∈ driver.timers.timeouts then
    { driver with timers := driver.timers.expire handle }.flush layout
  else (driver, [])

/-- An interval of the driver ticks. -/
def tick (handle : Nat) : Driver × List PreviewPost :=
  if handle ∈ driver.timers.intervals then driver.flush layout else (driver, [])

end Driver

/-- The editor as far as its preview goes. -/
structure Session where
  /-- `driver`. -/
  driver : Driver
  /-- `working.e`. -/
  working : List Element
  /-- `editorOpen`. -/
  editorOpen : Bool
  /-- Requests to clear the saved layout without an answer. -/
  clears : Nat

namespace Session

/-- What happens to the preview of the editor. -/
inductive Event where
  /-- `openEditor`, with a copy of the saved layout. -/
  | openEditor (saved : List Element)
  /-- The board answers the `GET /layout` of an opened editor, and the answer is taken over. -/
  | loaded (saved : List Element)
  /-- The working layout is changed, and `mutated` is called. -/
  | mutated (layout : List Element)
  /-- The clearing of the saved layout is confirmed. -/
  | clear
  /-- The board answers a request to clear, or the request fails. -/
  | clearAnswered (ok : Bool)
  /-- The editor is closed: cancelled, discarded, or saved. -/
  | closeEditor
  /-- A timeout fires. -/
  | elapsed (handle : Nat)
  /-- An interval ticks. -/
  | ticked (handle : Nat)
  /-- A `POST /preview` request is answered, or fails. -/
  | settled (index : Nat)

/-- The page as it is loaded. -/
def start : Session := ⟨.create, [], false, 0⟩

/-- Keep what the driver made of a call. -/
def drive (session : Session) (called : Driver × List PreviewPost) :
    Session × List PreviewPost :=
  ({ session with driver := called.1 }, called.2)

/-- One event; an event that cannot happen changes nothing. -/
def step (session : Session) : Event → Session × List PreviewPost
  | .openEditor saved =>
    let opened := { session with working := saved, editorOpen := true }
    opened.drive (session.driver.openDriver saved)
  | .loaded saved => ({ session with working := saved }, [])
  | .mutated layout => ({ session with working := layout, driver := session.driver.edit }, [])
  | .clear => ({ session with clears := session.clears + 1 }, [])
  | .clearAnswered ok =>
    if session.clears = 0 then (session, [])
    else
      let answered := { session with clears := session.clears - 1 }
      if ok then ({ answered with working := [], driver := session.driver.edit }, [])
      else (answered, [])
  | .closeEditor => { session with editorOpen := false }.drive session.driver.close
  | .elapsed handle => session.drive (session.driver.elapse session.working handle)
  | .ticked handle => session.drive (session.driver.tick session.working handle)
  | .settled index => session.drive (session.driver.settle session.working index)

end Session

end Zugli.Web
