import SchemaOutline.Proofs.Panel.History
import SchemaOutline.Proofs.Schema.Reference

/-!
# What a view depends on

A panel reads two files, with the ids of any number of canisters on any number of networks, and is
asked with a label that may say anything behind its first colon. Of all that a view depends on
little: on the port, on the name in the label, on whether the files are there, and on one entry of
each, that of the interface and that of the canister. What else the files hold may change without
a trace.

* `Panel.Names` — the name in a label.
* `Panel.HasRead` — a panel knows the ids that its files hold.
* `Panel.HasEntry` — the entry of a file for a canister.
* `Panel.AgreeOn` — two files that are the same to a canister.
* `Panel.view_congr` — what a view is made from.
* `Panel.HasRead.view_of_agreeOn` — which labels get a page, and when two panels show the same.
-/

namespace SchemaOutline.Panel

/-! ## Labels -/

/-- **The name in a label**: the text before the first colon, which is all of a label without
colons. -/
def Names (label name : String) : Prop :=
  ':' ∉ name.toList ∧ (label = name ∨ ∃ rest, label = name ++ ":" ++ rest)

theorem getElem?_segments_label (label : String) :
    (Text.segments ':' label.toList)[0]? = some (canisterName label).toList := by
  rw [canisterName, String.toList_ofList]
  rcases @Text.segments_cases Char _ ':' label.toList with ⟨-, parts⟩ | ⟨_, _, -, -, parts⟩
  · rw [parts]
    rfl
  · rw [parts]
    rfl

/-- A label has exactly one name in it. -/
theorem canisterName_eq_iff {label name : String} :
    canisterName label = name ↔ Names label name := by
  have first : canisterName label = name ↔
      (Text.segments ':' label.toList)[0]? = some name.toList := by
    rw [getElem?_segments_label, Option.some.injEq, String.toList_inj]
  rw [first, Text.getElem?_segments_zero]
  refine and_congr_right fun _ => or_congr String.toList_inj ⟨?_, ?_⟩
  · rintro ⟨rest, cut⟩
    refine ⟨.ofList rest, ?_⟩
    rw [← String.toList_inj, cut]
    simp
  · rintro ⟨rest, rfl⟩
    exact ⟨rest.toList, by simp⟩

/-! ## Ids -/

/-- What ids have for a canister on the network. -/
def networkValue? (ids : Json) (name : String) : Option Json :=
  (ids.get? name).bind (Json.get? network)

/-- The id that such a value is. -/
def idOfValue? : Json → Option String
  | .text s => if s = "" then none else some s
  | .null => none
  | .bool false => none
  | value => some value.compact

theorem id?_eq (ids : Json) (name : String) :
    id? ids name = (networkValue? ids name).bind idOfValue? := by
  unfold id? networkValue?
  cases (ids.get? name).bind (Json.get? network) with
  | none => rfl
  | some value =>
      cases value with
      | bool b => cases b <;> rfl
      | _ => rfl

/-- A value is an id unless it is `null`, `false` or the empty text. -/
def IsId (value : Json) : Prop :=
  value ≠ .null ∧ value ≠ .bool false ∧ value ≠ .text ""

theorem isSome_idOfValue?_iff {value : Json} : (idOfValue? value).isSome ↔ IsId value := by
  unfold IsId idOfValue?
  cases value with
  | bool b => cases b <;> simp
  | text s => by_cases empty : s = "" <;> simp [empty]
  | _ => simp

/-! ## Files -/

/-- The ids in a file at a path, of which there may be none. -/
def HoldsAt (files : Files) (path : Option String) (ids : Json) : Prop :=
  ∃ there, path = some there ∧ HoldsIds files there ids

/-- **A panel knows the ids that its files hold**: those of the interface and those of the
project. -/
structure HasRead (p : Panel) (files : Files) : Prop where
  interface : ∀ ids, p.interfaceIds = some ids ↔ HoldsAt files (some p.interfacePath) ids
  canister : ∀ ids, p.canisterIds = some ids ↔ HoldsAt files p.canisterPath ids

theorem holdsAt_some_iff {files : Files} {path : String} {ids : Json} :
    HoldsAt files (some path) ids ↔ HoldsIds files path ids := by
  simp [HoldsAt]

theorem holdsAt_map_iff {files : Files} {place : Option String} {path : String → String}
    {ids : Json} :
    HoldsAt files (place.map path) ids ↔
      ∃ root, place = some root ∧ HoldsIds files (path root) ids := by
  cases place <;> simp [HoldsAt]

/-- A panel has read the files it is made from. -/
theorem hasRead_create (files : Files) (workspace : Option String) (extension : String)
    (port : UInt16) : (create files workspace extension port).HasRead files := by
  constructor
  · intro ids
    rw [interfaceIds_create_eq_some_iff, ← holdsAt_some_iff]
    simp only [create, refresh]
  · intro ids
    rw [canisterIds_create_eq_some_iff, ← holdsAt_map_iff]
    simp only [create, refresh]

/-- Whatever happens to a panel, it has read the files as they were at some time. -/
theorem Session.IsFresh.hasRead {workspace : Option String} {extension : String} {port : UInt16}
    {read : Files} {s : Session} (fresh : s.IsFresh workspace extension port read) :
    s.panel.HasRead read := by
  rw [fresh]
  exact hasRead_create read workspace extension port

/-- The entry for a canister in the ids that a file holds. -/
def HasEntry (holds : Json → Prop) (name : String) (value : Json) : Prop :=
  ∃ ids, holds ids ∧ networkValue? ids name = some value

/-- **Two files are the same to a canister**: both are there and are JSON or neither is, and the
entry for the canister is the same in both or in neither. -/
structure AgreeOn (name : String) (holds other : Json → Prop) : Prop where
  usable : (∃ ids, holds ids) ↔ ∃ ids, other ids
  entry : ∀ value, HasEntry holds name value ↔ HasEntry other name value

section Known

variable {holds other : Json → Prop} {known otherKnown : Option Json} {name : String}
  (reads : ∀ ids, known = some ids ↔ holds ids)

include reads

theorem hasEntry_iff {value : Json} :
    HasEntry holds name value ↔ known.bind (networkValue? · name) = some value := by
  simp only [HasEntry, ← reads, Option.bind_eq_some_iff]

theorem isSome_known_iff : known.isSome ↔ ∃ ids, holds ids := by
  simp only [← reads, Option.isSome_iff_exists]

/-- Two files are the same to a canister if what is known of them is. -/
theorem agreeOn_iff (otherReads : ∀ ids, otherKnown = some ids ↔ other ids) :
    AgreeOn name holds other ↔ known.isSome = otherKnown.isSome ∧
      known.bind (networkValue? · name) = otherKnown.bind (networkValue? · name) := by
  rw [Bool.eq_iff_iff, isSome_known_iff reads, isSome_known_iff otherReads, Option.ext_iff]
  simp only [← hasEntry_iff reads, ← hasEntry_iff otherReads]
  exact ⟨fun agree => ⟨agree.usable, agree.entry⟩, fun ⟨usable, entry⟩ => ⟨usable, entry⟩⟩

end Known

/-! ## Views -/

/-- A page depends on nothing of a panel but its port. -/
theorem page_congr {p q : Panel} (port : p.port = q.port) (interfaceId id : String) :
    p.page interfaceId id = q.page interfaceId id := by
  unfold Panel.page Panel.url
  rw [port]

theorem none_or_some_of_isSome_eq {α : Type} {x y : Option α} (same : x.isSome = y.isSome) :
    (x = none ∧ y = none) ∨ ∃ a b, x = some a ∧ y = some b := by
  cases x <;> cases y <;> simp_all

/-- **What a view is made from**: the port, the name in the label, whether the files are there, and
one entry of each. -/
theorem view_congr {p q : Panel} {label other : String} (port : p.port = q.port)
    (name : canisterName label = canisterName other)
    (interface : p.interfaceIds.isSome = q.interfaceIds.isSome)
    (canister : p.canisterIds.isSome = q.canisterIds.isSome)
    (interfaceEntry : p.interfaceIds.bind (networkValue? · interfaceName) =
      q.interfaceIds.bind (networkValue? · interfaceName))
    (canisterEntry : p.canisterIds.bind (networkValue? · (canisterName other)) =
      q.canisterIds.bind (networkValue? · (canisterName other))) :
    p.view label = q.view other := by
  unfold view
  rw [name]
  rcases none_or_some_of_isSome_eq interface with ⟨none, alsoNone⟩ | ⟨ids, others, some, alsoSome⟩
  · rw [none, alsoNone]
  rcases none_or_some_of_isSome_eq canister with
    ⟨none, alsoNone⟩ | ⟨ids', others', some', alsoSome'⟩
  · rw [some, alsoSome, none, alsoNone]
  rw [some, alsoSome, Option.bind_some, Option.bind_some] at interfaceEntry
  rw [some', alsoSome', Option.bind_some, Option.bind_some] at canisterEntry
  rw [some, alsoSome, some', alsoSome']
  dsimp only
  rw [id?_eq, id?_eq, id?_eq, id?_eq, interfaceEntry, canisterEntry]
  simp only [page_congr port]

/-- A page is shown if both ids are known, and it is the page of these ids. -/
theorem view_eq_page_iff {p : Panel} {label : String} {page : Page} :
    p.view label = .page page ↔ ∃ interfaceId id,
      p.interfaceIds.bind (id? · interfaceName) = some interfaceId ∧
      p.canisterIds.bind (id? · (canisterName label)) = some id ∧ page = p.page interfaceId id := by
  unfold view
  cases p.interfaceIds with
  | none => simp
  | some interfaceIds =>
      cases p.canisterIds with
      | none => simp
      | some canisterIds =>
          simp only [Option.bind_some]
          cases id? interfaceIds interfaceName with
          | none => simp
          | some interfaceId =>
              cases id? canisterIds (canisterName label) with
              | none => simp
              | some id => simp [eq_comm]

/-- The id that a file holds for a canister. -/
def HasId (holds : Json → Prop) (name id : String) : Prop :=
  ∃ value, HasEntry holds name value ∧ idOfValue? value = some id

theorem hasId_iff {holds : Json → Prop} {known : Option Json} {name id : String}
    (reads : ∀ ids, known = some ids ↔ holds ids) :
    HasId holds name id ↔ known.bind (id? · name) = some id := by
  have whole : known.bind (id? · name) = (known.bind (networkValue? · name)).bind idOfValue? := by
    rw [Option.bind_assoc]
    simp only [id?_eq]
  rw [whole, Option.bind_eq_some_iff]
  simp only [HasId, hasEntry_iff reads]

/-- A file holds an id for a canister if it has an entry for it that is one. -/
theorem exists_hasId_iff {holds : Json → Prop} {name : String} :
    (∃ id, HasId holds name id) ↔ ∃ value, HasEntry holds name value ∧ IsId value := by
  simp only [HasId, ← isSome_idOfValue?_iff, Option.isSome_iff_exists]
  constructor
  · rintro ⟨id, value, has, isId⟩
    exact ⟨value, has, id, isId⟩
  · rintro ⟨value, has, id, isId⟩
    exact ⟨id, value, has, isId⟩

/-- **A page needs both ids**, and is the page of the ids that the files hold. -/
theorem HasRead.view_eq_page_iff {p : Panel} {files : Files} (read : p.HasRead files)
    {label name : String} (named : Names label name) {page : Page} :
    p.view label = .page page ↔ ∃ interfaceId id,
      HasId (HoldsAt files (some p.interfacePath)) interfaceName interfaceId ∧
      HasId (HoldsAt files p.canisterPath) name id ∧ page = p.page interfaceId id := by
  rw [Panel.view_eq_page_iff, canisterName_eq_iff.mpr named]
  simp only [hasId_iff read.interface, hasId_iff read.canister]

/-- **A view depends on one canister alone.** A panel that has read its files shows a page for a
label exactly if both files are there and are JSON, and each has an entry that is an id: that of the
interface one for the canister of the interface, that of the project one for the name in the label.
Any other panel of the same port shows the same for any label with this name, whatever it has read,
if its files are the same to these two canisters. -/
theorem HasRead.view_of_agreeOn {p : Panel} {files : Files} (read : p.HasRead files)
    {label name : String} (named : Names label name) :
    ((∃ page, p.view label = .page page) ↔
      ∃ interfaceEntry entry,
        HasEntry (HoldsAt files (some p.interfacePath)) interfaceName interfaceEntry ∧
        HasEntry (HoldsAt files p.canisterPath) name entry ∧
        IsId interfaceEntry ∧ IsId entry) ∧
    ∀ {q : Panel} {others : Files} {other : String}, q.HasRead others → Names other name →
      p.port = q.port →
      AgreeOn interfaceName (HoldsAt files (some p.interfacePath))
        (HoldsAt others (some q.interfacePath)) →
      AgreeOn name (HoldsAt files p.canisterPath) (HoldsAt others q.canisterPath) →
      p.view label = q.view other := by
  constructor
  · have ids : (∃ page, p.view label = .page page) ↔
        (∃ id, HasId (HoldsAt files (some p.interfacePath)) interfaceName id) ∧
          ∃ id, HasId (HoldsAt files p.canisterPath) name id := by
      simp only [read.view_eq_page_iff named]
      constructor
      · rintro ⟨_, interfaceId, id, hasInterface, has, -⟩
        exact ⟨⟨interfaceId, hasInterface⟩, id, has⟩
      · rintro ⟨⟨interfaceId, hasInterface⟩, id, has⟩
        exact ⟨_, interfaceId, id, hasInterface, has, rfl⟩
    rw [ids, exists_hasId_iff, exists_hasId_iff]
    constructor
    · rintro ⟨⟨interfaceEntry, hasInterface, isInterface⟩, entry, has, isId⟩
      exact ⟨interfaceEntry, entry, hasInterface, has, isInterface, isId⟩
    · rintro ⟨interfaceEntry, entry, hasInterface, has, isInterface, isId⟩
      exact ⟨⟨interfaceEntry, hasInterface, isInterface⟩, entry, has, isId⟩
  · intro q others other otherRead otherNamed port interface canister
    have name : canisterName label = canisterName other := by
      rw [canisterName_eq_iff.mpr named, canisterName_eq_iff.mpr otherNamed]
    obtain ⟨interface, interfaceEntry⟩ :=
      (agreeOn_iff read.interface otherRead.interface).mp interface
    obtain ⟨canister, canisterEntry⟩ := (agreeOn_iff read.canister otherRead.canister).mp canister
    rw [← canisterName_eq_iff.mpr otherNamed] at canisterEntry
    exact view_congr port name interface canister interfaceEntry canisterEntry

namespace Pier

/-- The ids of a ferry, and those of the interface. -/
def files : Files :=
  Files.ofList
    [("pier/.dfx/local/canister_ids.json",
        .ok "\x7b\"ferry\":\x7b\"local\":\"f-1\"\x7d\x7d".toUTF8),
      ("ext/tools/ui/.dfx/local/canister_ids.json",
        .ok "\x7b\"didjs\":\x7b\"local\":\"ui\"\x7d\x7d".toUTF8)]

/-- The same ids among others, and below another directory. -/
def others : Files :=
  Files.ofList
    [("quay/.dfx/local/canister_ids.json",
        .ok "\x7b\"barge\":7,\"ferry\":\x7b\"ic\":\"f-9\",\"local\":\"f-1\"\x7d\x7d".toUTF8),
      ("ext/tools/ui/.dfx/local/canister_ids.json",
        .ok "\x7b\"didjs\":\x7b\"local\":\"ui\",\"ic\":null\x7d\x7d".toUTF8)]

def panel : Panel := create files (some "pier") "ext" 8080

def otherPanel : Panel := create others (some "quay") "ext" 8080

theorem known :
    panel.interfaceIds = some (.object [("didjs", .object [("local", .text "ui")])]) ∧
    panel.canisterIds = some (.object [("ferry", .object [("local", .text "f-1")])]) := by
  decide +kernel

theorem otherKnown :
    otherPanel.interfaceIds =
      some (.object [("didjs", .object [("local", .text "ui"), ("ic", .null)])]) ∧
    otherPanel.canisterIds =
      some (.object [("barge", .whole (.ofNat 7 (by decide))),
        ("ferry", .object [("ic", .text "f-9"), ("local", .text "f-1")])]) := by
  decide +kernel

theorem hasRead : panel.HasRead files :=
  hasRead_create files (some "pier") "ext" 8080

theorem otherHasRead : otherPanel.HasRead others :=
  hasRead_create others (some "quay") "ext" 8080

theorem agreeOn_interface :
    AgreeOn interfaceName (HoldsAt files (some panel.interfacePath))
      (HoldsAt others (some otherPanel.interfacePath)) := by
  rw [agreeOn_iff hasRead.interface otherHasRead.interface, known.1, otherKnown.1]
  exact ⟨rfl, rfl⟩

theorem agreeOn_ferry :
    AgreeOn "ferry" (HoldsAt files panel.canisterPath)
      (HoldsAt others otherPanel.canisterPath) := by
  rw [agreeOn_iff hasRead.canister otherHasRead.canister, known.2, otherKnown.2]
  exact ⟨rfl, rfl⟩

end Pier

/-- A ferry is shown at the pier, and the same way at the quay, where there is a barge too. -/
theorem HasRead.view_of_agreeOn_pier :
    Pier.panel.HasRead Pier.files ∧ Names "ferry: leaves at noon" "ferry" ∧
    Pier.otherPanel.HasRead Pier.others ∧ Names "ferry" "ferry" ∧
    Pier.panel.port = Pier.otherPanel.port ∧
    AgreeOn interfaceName (HoldsAt Pier.files (some Pier.panel.interfacePath))
      (HoldsAt Pier.others (some Pier.otherPanel.interfacePath)) ∧
    AgreeOn "ferry" (HoldsAt Pier.files Pier.panel.canisterPath)
      (HoldsAt Pier.others Pier.otherPanel.canisterPath) ∧
    ∃ page, Pier.panel.view "ferry: leaves at noon" = .page page ∧
      Pier.otherPanel.view "ferry" = .page page := by
  have named : Names "ferry: leaves at noon" "ferry" := ⟨by decide, .inr ⟨" leaves at noon", rfl⟩⟩
  have alone : Names "ferry" "ferry" := ⟨by decide, .inl rfl⟩
  obtain ⟨shown, same⟩ := Pier.hasRead.view_of_agreeOn named
  have entries :
      HasEntry (HoldsAt Pier.files (some Pier.panel.interfacePath)) interfaceName (.text "ui") ∧
      HasEntry (HoldsAt Pier.files Pier.panel.canisterPath) "ferry" (.text "f-1") := by
    rw [hasEntry_iff Pier.hasRead.interface, hasEntry_iff Pier.hasRead.canister, Pier.known.1,
      Pier.known.2]
    exact ⟨rfl, rfl⟩
  obtain ⟨page, isPage⟩ := shown.mpr
    ⟨_, _, entries.1, entries.2, by simp [IsId], by simp [IsId]⟩
  have equal := same Pier.otherHasRead alone rfl Pier.agreeOn_interface Pier.agreeOn_ferry
  exact ⟨Pier.hasRead, named, Pier.otherHasRead, alone, rfl, Pier.agreeOn_interface,
    Pier.agreeOn_ferry, page, isPage, equal ▸ isPage⟩

end SchemaOutline.Panel
