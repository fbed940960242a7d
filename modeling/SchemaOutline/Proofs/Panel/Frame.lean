import SchemaOutline.Proofs.Panel.View

/-!
# The address in a page

A page shows the interface of a canister in a frame, and the address of the frame holds the two ids
as they are in the files. A reader of the page takes for the address what stands between the opening
of the frame and the next double quote. That is the address only if neither id has a double quote in
it. Otherwise the address ends there, and what is left of the id goes on as a part of the page.

* `Text.StandsFirst` — where a text stands for the first time.
* `Panel.Frames` — the address of the first frame of a page, and what stands behind it.
* `Panel.frames_page_iff` — what a reader finds in the page of a canister.
* `Panel.HasRead.frames_view` — the same for the page that is shown for a label.
-/

namespace SchemaOutline

namespace Text

variable {part before text : List Char}

/-- A part stands in a text behind the given start, and nowhere before. -/
def StandsFirst (part before text : List Char) : Prop :=
  before ++ part <+: text ∧ ∀ earlier, earlier ++ part <+: text → before.length ≤ earlier.length

/-- A part that ends a text stands there for the first time if it is nowhere in the text without its
last character. -/
theorem standsFirst_of_end (single : ¬ part <:+: (before ++ part).dropLast) :
    StandsFirst part before (before ++ part) := by
  refine ⟨List.prefix_refl _, fun earlier there => ?_⟩
  by_contra shorter
  have fits : (earlier ++ part).length ≤ (before ++ part).dropLast.length := by
    rw [List.length_dropLast, List.length_append, List.length_append]
    omega
  have start := List.prefix_of_prefix_length_le there (List.dropLast_prefix _) fits
  exact single ((List.suffix_append earlier part).isInfix.trans start.isInfix)

/-- Where a part stands first does not depend on what comes behind it. -/
theorem StandsFirst.append (first : StandsFirst part before text) (more : List Char) :
    StandsFirst part before (text ++ more) := by
  obtain ⟨here, least⟩ := first
  refine ⟨here.trans (List.prefix_append text more), fun earlier there => ?_⟩
  by_contra shorter
  have inside : (earlier ++ part).length ≤ text.length := by
    have fits := here.length_le
    rw [List.length_append] at fits ⊢
    omega
  have start := List.prefix_of_prefix_length_le there (List.prefix_append _ _) inside
  exact shorter (least earlier start)

/-- There is only one such place. -/
theorem StandsFirst.unique {other : List Char} (first : StandsFirst part before text)
    (second : StandsFirst part other text) : before = other := by
  have length : before.length = other.length :=
    Nat.le_antisymm (first.2 other second.1) (second.2 before first.1)
  have start := (List.prefix_append before part).trans first.1
  have otherStart := (List.prefix_append other part).trans second.1
  exact (List.prefix_of_prefix_length_le start otherStart (Nat.le_of_eq length)).eq_of_length length

/-- A text up to its first separator is one of a kind. -/
theorem append_cons_unique {separator : Char} {first other rest otherRest : List Char}
    (free : separator ∉ first) (otherFree : separator ∉ other)
    (same : first ++ separator :: rest = other ++ separator :: otherRest) :
    first = other ∧ rest = otherRest := by
  have parts := congrArg (segments separator) same
  rw [segments_append free, segments_append otherFree] at parts
  obtain rfl := (List.cons.inj parts).1
  exact ⟨rfl, (List.cons.inj (List.append_cancel_left same)).2⟩

end Text

namespace Panel

/-- What opens a frame, up to its address. -/
def frameStart : String := "<iframe src=\""

/-- What stands in a page behind the address and its quote. -/
def frameEnd : String := "></iframe>\n</body>\n</html>"

/-- **The address of a frame** as a reader of a page finds it: it stands between the first opening
of a frame and the next double quote, and the rest of the page stands behind that. -/
def Frames (html address rest : String) : Prop :=
  '"' ∉ address.toList ∧ ∃ before, Text.StandsFirst frameStart.toList before html.toList ∧
    html.toList = before ++ frameStart.toList ++ (address.toList ++ '"' :: rest.toList)

/-- The start of a page ends with the opening of a frame, and opens none before. -/
theorem exists_standsFirst_pageHead : ∃ before, pageHead.toList = before ++ frameStart.toList ∧
    Text.StandsFirst frameStart.toList before pageHead.toList := by
  have ends : frameStart.toList <:+ pageHead.toList ∧
      Text.occursIn frameStart.toList pageHead.toList.dropLast = false := by
    unfold pageHead title frameStart
    simp only [String.toList_append, String.reduceToList]
    decide +kernel
  obtain ⟨⟨before, cut⟩, single⟩ := ends
  refine ⟨before, cut.symm, ?_⟩
  rw [← cut] at single ⊢
  exact Text.standsFirst_of_end fun inside => by simp [(Text.occursIn_iff _ _).mpr inside] at single

theorem pageTail_eq : pageTail = "\"" ++ frameEnd := by
  decide +kernel

/-! ## What a reader finds -/

/-- A page has at most one such address. -/
theorem Frames.unique {html address rest other otherRest : String}
    (first : Frames html address rest) (second : Frames html other otherRest) :
    address = other ∧ rest = otherRest := by
  obtain ⟨free, before, start, cut⟩ := first
  obtain ⟨otherFree, otherBefore, otherStart, otherCut⟩ := second
  obtain rfl := start.unique otherStart
  rw [cut] at otherCut
  obtain ⟨address, rest⟩ :=
    Text.append_cons_unique free otherFree (List.append_cancel_left otherCut)
  exact ⟨String.toList_inj.mp address, String.toList_inj.mp rest⟩

/-- Only the ids can bring a double quote into an address. -/
theorem quote_mem_url_iff {p : Panel} {interfaceId id : String} :
    '"' ∈ (p.url interfaceId id).toList ↔ '"' ∈ interfaceId.toList ∨ '"' ∈ id.toList := by
  have port : '"' ∉ (Text.natural p.port.toNat).toList := by
    intro mem
    rw [Text.natural, String.toList_ofList] at mem
    cases Nat.isDigit_of_mem_toDigits (by decide) (by decide) mem
  unfold url
  simp [port]

/-- **What a reader finds in the page of a canister**: the address and the end of the page, but cut
at the first double quote. -/
theorem frames_page_iff {p : Panel} {interfaceId id address rest : String} :
    Frames (p.page interfaceId id).html address rest ↔
      '"' ∉ address.toList ∧
        address ++ "\"" ++ rest = p.url interfaceId id ++ "\"" ++ frameEnd := by
  obtain ⟨before, head, first⟩ := exists_standsFirst_pageHead
  have html : (p.page interfaceId id).html.toList =
      pageHead.toList ++ ((p.url interfaceId id).toList ++ '"' :: frameEnd.toList) := by
    unfold Panel.page
    rw [pageTail_eq]
    simp only [String.toList_append, List.append_assoc]
    rfl
  have start := first.append ((p.url interfaceId id).toList ++ '"' :: frameEnd.toList)
  rw [← html] at start
  rw [head] at html
  have same : address.toList ++ '"' :: rest.toList =
        (p.url interfaceId id).toList ++ '"' :: frameEnd.toList ↔
      address ++ "\"" ++ rest = p.url interfaceId id ++ "\"" ++ frameEnd := by
    rw [← String.toList_inj]
    simp
  rw [← same]
  constructor
  · rintro ⟨free, otherBefore, otherStart, cut⟩
    obtain rfl := start.unique otherStart
    rw [html] at cut
    exact ⟨free, (List.append_cancel_left cut).symm⟩
  · rintro ⟨free, cut⟩
    refine ⟨free, before, start, ?_⟩
    rw [html, cut]

/-- A reader finds the address of a canister if there is no double quote in the ids. -/
theorem frames_url_iff {p : Panel} {interfaceId id : String} :
    Frames (p.page interfaceId id).html (p.url interfaceId id) frameEnd ↔
      '"' ∉ interfaceId.toList ∧ '"' ∉ id.toList := by
  rw [frames_page_iff, quote_mem_url_iff, not_or]
  exact and_iff_left rfl

/-- There is always something that a reader finds: the address up to its first double quote. -/
theorem exists_frames (p : Panel) (interfaceId id : String) :
    ∃ address rest, Frames (p.page interfaceId id).html address rest := by
  have quote : '"' ∈ (p.url interfaceId id).toList ++ '"' :: frameEnd.toList := by simp
  obtain ⟨address, rest, cut, free⟩ := List.eq_append_cons_of_mem quote
  refine ⟨.ofList address, .ofList rest, frames_page_iff.mpr ⟨by simpa using free, ?_⟩⟩
  rw [← String.toList_inj]
  simp [cut]

/-- **The ids in a page.** Whenever a page is shown for a label, its ids are those that the files
hold for the interface and for the canister in the label. The first frame of the page has one
address to a reader, which is the address of the canister up to its first double quote. It is all of
that address, with nothing behind it but the end of the page, exactly if neither id has a double
quote in it. -/
theorem HasRead.frames_view {p : Panel} {files : Files} (read : p.HasRead files)
    {label name : String} (named : Names label name) {page : Page}
    (shown : p.view label = .page page) :
    ∃ interfaceId id address rest,
      HasId (HoldsAt files (some p.interfacePath)) interfaceName interfaceId ∧
      HasId (HoldsAt files p.canisterPath) name id ∧
      (∀ other otherRest, Frames page.html other otherRest ↔ other = address ∧ otherRest = rest) ∧
      '"' ∉ address.toList ∧
      address ++ "\"" ++ rest = p.url interfaceId id ++ "\"" ++ frameEnd ∧
      (address = p.url interfaceId id ∧ rest = frameEnd ↔
        '"' ∉ interfaceId.toList ∧ '"' ∉ id.toList) := by
  obtain ⟨interfaceId, id, hasInterface, has, rfl⟩ := (read.view_eq_page_iff named).mp shown
  obtain ⟨address, rest, found⟩ := exists_frames p interfaceId id
  have only (other otherRest : String) : Frames (p.page interfaceId id).html other otherRest ↔
      other = address ∧ otherRest = rest := by
    constructor
    · exact fun also => also.unique found
    · rintro ⟨rfl, rfl⟩
      exact found
  obtain ⟨free, cut⟩ := frames_page_iff.mp found
  refine ⟨interfaceId, id, address, rest, hasInterface, has, only, free, cut, ?_⟩
  rw [← frames_url_iff, only, eq_comm, eq_comm (a := rest)]

namespace Kiosk

/-- The ids of a bill and of a note, which has a double quote in its own. -/
def files : Files :=
  Files.ofList
    [("kiosk/.dfx/local/canister_ids.json",
        .ok ("\x7b\"bill\":\x7b\"local\":\"b-1\"\x7d," ++
          "\"note\":\x7b\"local\":\"n\\\"><b>\"\x7d\x7d").toUTF8),
      ("ext/tools/ui/.dfx/local/canister_ids.json",
        .ok "\x7b\"didjs\":\x7b\"local\":\"ui\"\x7d\x7d".toUTF8)]

def panel : Panel := create files (some "kiosk") "ext" 8080

theorem hasRead : panel.HasRead files :=
  hasRead_create files (some "kiosk") "ext" 8080

theorem known :
    panel.interfaceIds = some (.object [("didjs", .object [("local", .text "ui")])]) ∧
    panel.canisterIds = some (.object
      [("bill", .object [("local", .text "b-1")]),
        ("note", .object [("local", .text "n\"><b>")])]) := by
  decide +kernel

theorem hasId :
    HasId (HoldsAt files (some panel.interfacePath)) interfaceName "ui" ∧
    HasId (HoldsAt files panel.canisterPath) "bill" "b-1" ∧
    HasId (HoldsAt files panel.canisterPath) "note" "n\"><b>" := by
  rw [hasId_iff hasRead.interface, hasId_iff hasRead.canister, hasId_iff hasRead.canister, known.1,
    known.2]
  exact ⟨rfl, rfl, rfl⟩

theorem names (name : String) (free : ':' ∉ name.toList) : Names name name :=
  ⟨free, .inl rfl⟩

theorem view_bill : panel.view "bill" = .page (panel.page "ui" "b-1") :=
  (hasRead.view_eq_page_iff (names "bill" (by decide))).mpr ⟨_, _, hasId.1, hasId.2.1, rfl⟩

theorem view_note : panel.view "note" = .page (panel.page "ui" "n\"><b>") :=
  (hasRead.view_eq_page_iff (names "note" (by decide))).mpr ⟨_, _, hasId.1, hasId.2.2, rfl⟩

end Kiosk

/-- A reader finds the address of a bill. -/
theorem HasRead.frames_view_kiosk :
    Kiosk.panel.HasRead Kiosk.files ∧ Names "bill" "bill" ∧
    Kiosk.panel.view "bill" = .page (Kiosk.panel.page "ui" "b-1") ∧
    '"' ∉ "ui".toList ∧ '"' ∉ "b-1".toList ∧
    Frames (Kiosk.panel.page "ui" "b-1").html (Kiosk.panel.url "ui" "b-1") frameEnd := by
  have named : Names "bill" "bill" := Kiosk.names "bill" (by decide)
  obtain ⟨interfaceId, id, address, rest, hasInterface, has, only, -, -, whole⟩ :=
    Kiosk.hasRead.frames_view named Kiosk.view_bill
  -- a file holds one id for a name
  rw [hasId_iff Kiosk.hasRead.interface, Kiosk.known.1] at hasInterface
  rw [hasId_iff Kiosk.hasRead.canister, Kiosk.known.2] at has
  cases hasInterface
  cases has
  obtain ⟨rfl, rfl⟩ := whole.mpr ⟨by decide, by decide⟩
  exact ⟨Kiosk.hasRead, named, Kiosk.view_bill, by decide, by decide, (only _ _).mpr ⟨rfl, rfl⟩⟩

/-- In the page of a note the address ends within the id, and a part of the id is a part of the
page. -/
theorem not_frames_kiosk :
    Kiosk.panel.HasRead Kiosk.files ∧
    HasId (HoldsAt Kiosk.files (some Kiosk.panel.interfacePath)) interfaceName "ui" ∧
    HasId (HoldsAt Kiosk.files Kiosk.panel.canisterPath) "note" "n\"><b>" ∧
    Kiosk.panel.view "note" = .page (Kiosk.panel.page "ui" "n\"><b>") ∧
    Frames (Kiosk.panel.page "ui" "n\"><b>").html "http://localhost:8080/?canisterId=ui&id=n"
      ("><b>\"" ++ frameEnd) ∧
    ¬ Frames (Kiosk.panel.page "ui" "n\"><b>").html (Kiosk.panel.url "ui" "n\"><b>") frameEnd := by
  refine ⟨Kiosk.hasRead, Kiosk.hasId.1, Kiosk.hasId.2.2, Kiosk.view_note, ?_, ?_⟩
  · rw [frames_page_iff]
    decide +kernel
  · rw [frames_url_iff]
    decide

end Panel

end SchemaOutline
