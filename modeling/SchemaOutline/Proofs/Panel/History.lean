import Mathlib.Data.List.Induction
import SchemaOutline.Panel

/-!
# What a panel remembers

A panel looks at the files when it is made and when it is refreshed, and files may change at any
time. What it shows is therefore a matter of the past. This module follows a panel through a history
of changes, refreshes and questions: it always is the panel that would be made from the files as
they were at its last refresh, so it remembers nothing from before and notices nothing since.

A refresh does not touch the ids of a project that is not there. It need not, because a panel
without a project never has any; `Session.IsFresh` is the invariant that says so.

* `Panel.Event`, `Panel.Session` — what happens, and a panel with the files around it.
* `Panel.refresh_create` — a refresh makes the panel anew.
* `Panel.HoldsIds` — a file is there, is a text, and is JSON.
* `Panel.Session.exists_lastRefresh` — a panel shows the files as of its last refresh.
-/

namespace SchemaOutline.Panel

/-- What happens to a panel and around it: the files change, it is refreshed, or it is asked what to
show for a label. -/
inductive Event where
  | change (files : Files)
  | refresh
  | ask (label : String)

/-- A panel and the files around it. -/
structure Session where
  files : Files
  panel : Panel

namespace Session

/-- A panel has just been made. -/
def start (files : Files) (workspace : Option String) (extension : String) (port : UInt16) :
    Session where
  files
  panel := create files workspace extension port

/-- The session after an event. A question changes nothing. -/
def step (s : Session) : Event → Session
  | .change files => { s with files }
  | .refresh => { s with panel := s.panel.refresh s.files }
  | .ask _ => s

/-- The session after a history. -/
def after (s : Session) (history : List Event) : Session :=
  history.foldl step s

theorem after_concat (s : Session) (history : List Event) (e : Event) :
    s.after (history ++ [e]) = (s.after history).step e := by
  rw [after, List.foldl_append, List.foldl_cons, List.foldl_nil, after]

end Session

/-- **A refresh makes the panel anew**: nothing of what it read before is left. -/
theorem refresh_create (before files : Files) (workspace : Option String) (extension : String)
    (port : UInt16) :
    (create before workspace extension port).refresh files =
      create files workspace extension port := by
  cases workspace <;> simp [create, refresh]

/-! ## What a panel has read -/

/-- There is a file at a path, it is a text, and the text is JSON. -/
def HoldsIds (files : Files) (path : String) (ids : Json) : Prop :=
  ∃ text, files.text path = .ok text ∧ Json.parse text = .ok ids

theorem toOption_eq_some_iff {ε α : Type} {x : Except ε α} {a : α} :
    x.toOption = some a ↔ x = .ok a := by
  cases x <;> simp [Except.toOption]

theorem readIds_eq_some_iff {files : Files} {path : String} {ids : Json} :
    readIds files path = some ids ↔ HoldsIds files path ids := by
  simp only [readIds, HoldsIds, Option.bind_eq_some_iff, toOption_eq_some_iff]

theorem canisterIds_create_eq_some_iff {files : Files} {workspace : Option String}
    {extension : String} {port : UInt16} {ids : Json} :
    (create files workspace extension port).canisterIds = some ids ↔
      ∃ root, workspace = some root ∧ HoldsIds files (idsPath root) ids := by
  cases workspace with
  | none => simp [create, refresh]
  | some root => simp [create, refresh, readIds_eq_some_iff]

theorem interfaceIds_create_eq_some_iff {files : Files} {workspace : Option String}
    {extension : String} {port : UInt16} {ids : Json} :
    (create files workspace extension port).interfaceIds = some ids ↔
      HoldsIds files (idsPath (joinPath (joinPath extension "tools") "ui")) ids := by
  simp only [create, refresh, readIds_eq_some_iff]

/-! ## Histories -/

namespace Session

variable (workspace : Option String) (extension : String) (port : UInt16)

/-- The panel is the one that would be made from the given files. -/
def IsFresh (read : Files) (s : Session) : Prop :=
  s.panel = create read workspace extension port

variable {workspace extension port} {read : Files} {s : Session}

/-- After a refresh the panel is made from the files that are there now. -/
theorem IsFresh.refresh (fresh : s.IsFresh workspace extension port read) :
    (s.step .refresh).IsFresh workspace extension port s.files := by
  show s.panel.refresh s.files = _
  rw [fresh, refresh_create]

/-- Whatever else happens leaves the panel as it is. -/
theorem IsFresh.step (fresh : s.IsFresh workspace extension port read) {e : Event}
    (other : e ≠ .refresh) : (s.step e).IsFresh workspace extension port read := by
  cases e with
  | change files => exact fresh
  | refresh => exact absurd rfl other
  | ask label => exact fresh

variable (workspace extension port)

/-- **A panel shows the files as of its last refresh.** Every history ends with what happened since
the last refresh, or since the panel was made if there was none. What the panel shows then is what a
panel would show that is newly made from the files of that moment. So it has the ids that were in
the files then, and none from a file that was not there, could not be read or was no JSON. -/
theorem exists_lastRefresh (files : Files) (history : List Event) :
    ∃ before since, history = before ++ since ∧
      (before = [] ∨ before.getLast? = some .refresh) ∧ Event.refresh ∉ since ∧
      let now := ((start files workspace extension port).after history).panel
      let read := ((start files workspace extension port).after before).files
      (∀ label, now.view label = (create read workspace extension port).view label) ∧
      (∀ ids, now.canisterIds = some ids ↔
        ∃ root, workspace = some root ∧ HoldsIds read (idsPath root) ids) ∧
      ∀ ids, now.interfaceIds = some ids ↔
        HoldsIds read (idsPath (joinPath (joinPath extension "tools") "ui")) ids := by
  have split : ∃ before since, history = before ++ since ∧
      (before = [] ∨ before.getLast? = some .refresh) ∧ Event.refresh ∉ since ∧
      ((start files workspace extension port).after history).IsFresh workspace extension port
        ((start files workspace extension port).after before).files := by
    -- the last event comes first, as it may be the refresh that is looked for
    induction history using List.reverseRecOn with
    | nil => exact ⟨[], [], rfl, .inl rfl, List.not_mem_nil, rfl⟩
    | append_singleton history e ih =>
        obtain ⟨before, since, rfl, refreshed, quiet, fresh⟩ := ih
        rw [after_concat]
        by_cases again : e = .refresh
        · subst again
          refine ⟨before ++ since ++ [.refresh], [], by simp, .inr (by simp), by simp, ?_⟩
          rw [after_concat]
          exact fresh.refresh
        · refine ⟨before, since ++ [e], by simp, refreshed, ?_, fresh.step again⟩
          simp [quiet, Ne.symm again]
  obtain ⟨before, since, whole, refreshed, quiet, fresh⟩ := split
  refine ⟨before, since, whole, refreshed, quiet, ?_, ?_, ?_⟩
  · intro label
    rw [fresh]
  · intro ids
    rw [fresh, canisterIds_create_eq_some_iff]
  · intro ids
    rw [fresh, interfaceIds_create_eq_some_iff]

end Session

end SchemaOutline.Panel
