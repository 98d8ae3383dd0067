/-
**Notices.**

What is reported while a site is loaded and checked, in the order in which it happens. A notice
says what happened; its level and its wording follow from that.

* `Logged`: a value together with the notices that were given on the way to it.
-/

import Docsite.Content.Kind

namespace Docsite

/-! ## Levels -/

/-- How important a notice is. -/
inductive Level where
  | debug
  | info
  | warn
  deriving DecidableEq, Repr

/-- The name of a level. -/
def Level.label : Level → String
  | .debug => "DEBUG"
  | .info => "INFO"
  | .warn => "WARN"

/-! ## Notices -/

/-- Something that happened while a site was loaded or checked. -/
inductive Notice where
  /-- A configuration key has no meaning. -/
  | unknownKey (key : String)
  /-- The address of the site carries a path. -/
  | urlHasPath (url : String)
  /-- An entry passes on a target that is no absolute URL. -/
  | hrefNotChecked (field target : String)
  | configValidated (title : String) (navbarItems headTags : Nat)
  | configLoaded (path : Path)
  | directoryMissing (kind : ContentKind) (root : Path)
  | draftSkipped (sitePath : Path)
  /-- A file is served at a route that another file has taken. -/
  | duplicateRoute (route : String) (sitePath : Path)
  | contentDiscovered (files routes : Nat)
  | linksChecked (routes broken brokenReferences : Nat)
  /-- A link is broken and the policy for its kind is to warn. -/
  | offenceWarned (kind item : String)
  /-- A link is broken and the policy for its kind is to log. -/
  | offenceLogged (kind item : String)
  | initStarted
  | alreadyExists (path : Path)
  | fileCreated (name : String)
  | initFinished
  | initHint
  | checkStarted (title : String)
  | checkPassed (milliseconds : String) (warned logged ignored : Nat)
  | checkSkipped
  | configExported (path : Path)
  deriving DecidableEq, Repr

namespace Notice

/-- The level of a notice. -/
def level : Notice → Level
  | .unknownKey .. | .urlHasPath .. | .duplicateRoute .. | .offenceWarned .. | .alreadyExists .. =>
    .warn
  | .hrefNotChecked .. | .configValidated .. | .directoryMissing .. | .draftSkipped ..
  | .linksChecked .. => .debug
  | _ => .info

/-- The wording of a notice. -/
def message : Notice → String
  | .unknownKey key => s!"Ignoring unknown config key `{key}`"
  | .urlHasPath url => s!"url '{url}' contains a path; the path belongs in baseUrl"
  | .hrefNotChecked field target =>
    s!"{field}: href '{target}' is not an absolute URL and will not be link-checked"
  | .configValidated title navbarItems headTags =>
    s!"Validated config for '{title}' ({navbarItems} navbar items, {headTags} head tags)"
  | .configLoaded path => s!"Loaded config from {path.text}"
  | .directoryMissing kind root => s!"No {kind.label} directory at {root.text}"
  | .draftSkipped sitePath => s!"Skipping draft {sitePath.text}"
  | .duplicateRoute route sitePath =>
    s!"Duplicate route {route} (also produced by {sitePath.text})"
  | .contentDiscovered files routes =>
    s!"Discovered {files} content files serving {routes} routes"
  | .linksChecked routes broken brokenReferences =>
    s!"Checked links against {routes} routes: {broken} broken, " ++
      s!"{brokenReferences} broken Markdown references"
  | .offenceWarned kind item | .offenceLogged kind item => s!"{kind}: {item}"
  | .initStarted => "Initializing portico..."
  | .alreadyExists path => s!"{path.text} already exists. Use --yes to overwrite."
  | .fileCreated name => s!"Created {name}"
  | .initFinished => "Initialization complete!"
  | .initHint => "Run 'portico check' to validate the site."
  | .checkStarted title => s!"Checking links for '{title}'..."
  | .checkPassed milliseconds warned logged ignored =>
    s!"Check passed in {milliseconds}ms ({warned} warned, {logged} logged, {ignored} ignored)"
  | .checkSkipped => "Skipping link check"
  | .configExported path => s!"Exported config to {path.text}"

end Notice

/-! ## Values with notices -/

/-- A value together with the notices that were given on the way to it. -/
structure Logged (α : Type) where
  value : α
  notices : List Notice := []
  deriving Repr

namespace Logged

/-- The value alone. -/
protected def pure {α : Type} (value : α) : Logged α :=
  { value }

/-- The notices of the first step come before those of the second. -/
protected def bind {α β : Type} (first : Logged α) (next : α → Logged β) : Logged β :=
  { value := (next first.value).value, notices := first.notices ++ (next first.value).notices }

instance : Monad Logged where
  pure := Logged.pure
  bind := Logged.bind

/-- Gives one notice. -/
def give (notice : Notice) : Logged Unit :=
  { value := (), notices := [notice] }

/-- Gives a notice if a condition holds. -/
def giveIf (condition : Bool) (notice : Notice) : Logged Unit :=
  { value := (), notices := if condition then [notice] else [] }

@[simp] theorem value_bind {α β : Type} (first : Logged α) (next : α → Logged β) :
    (first >>= next).value = (next first.value).value := rfl

@[simp] theorem notices_bind {α β : Type} (first : Logged α) (next : α → Logged β) :
    (first >>= next).notices = first.notices ++ (next first.value).notices := rfl

@[simp] theorem value_pure {α : Type} (a : α) : (pure a : Logged α).value = a := rfl

@[simp] theorem notices_pure {α : Type} (a : α) : (pure a : Logged α).notices = [] := rfl

instance : LawfulMonad Logged :=
  LawfulMonad.mk' Logged (fun x => by cases x; simp [Functor.map, Logged.bind, Logged.pure])
    (fun _ _ => rfl) (fun _ _ _ => by simp [Bind.bind, Logged.bind, List.append_assoc])

end Logged

end Docsite
