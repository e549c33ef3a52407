import SequenceChart.Drawio.Document
import SequenceChart.Layout.Range
import SequenceChart.Proofs.Layout.Rewording
import SequenceChart.Slide.Deck
import Mathlib.Logic.Equiv.Basic

/-!
# Names are not seen

A name says which participant is meant and nothing else.  If all names of a diagram are replaced,
different ones by different ones, then the shapes are in the same places (`ofDiagram_reword`) and
carry the new names; and neither document shows a name, so both stay as they are.  What a name
refers to may be one participant, several, or none: the diagram need not be well formed.

Labels and texts are kept here.  That makes a renaming a case of new words, the one in which the
words that are shown are the old ones.

## Main definitions

* `Diagram.rename`, `Layout.rename` — new names in a diagram, in a picture.

## Main statements

* `documents_rename` — a renamed diagram has the same documents.
-/

set_option autoImplicit false
namespace SequenceChart

/-- A diagram with other names, wherever a name stands: declarations, ends of messages, targets of
notes, and the messages of loops. -/
def Diagram.rename (name : String → String) (d : Diagram) : Diagram :=
  d.reword name id

/-- A picture with other names in the same places. -/
def Layout.rename {α : Type} (name : String → String) (l : Layout α) : Layout α :=
  l.reword name id

/-! ## Pictures -/

section

variable {name : String → String} (hname : Function.Injective name) {α : Type} [Scalar α]
  (d : Diagram) (s : Settings α)

include hname

theorem Diagram.inRange_reword (text : String → String) :
    (d.reword name text).inRange s = d.inRange s := by
  rw [inRange, reword, List.all_map, inRange]
  refine congrArg (d.loops.all ·) (funext fun l ↦ ?_)
  show ((loopFrame? (d.reword name text) s (l.reword name text)).isNone || l.inRange α) = _
  rw [loopFrame?_reword hname]

theorem Layout.ofDiagram_rename : ofDiagram (d.rename name) s = (ofDiagram d s).rename name :=
  ofDiagram_reword hname id d s

theorem Layout.checked_rename : checked (d.rename name) s = (checked d s).map (rename name) := by
  rw [checked, Diagram.rename, Diagram.inRange_reword hname, checked]
  cases d.inRange s with
  | false => rfl
  | true => exact congrArg Except.ok (ofDiagram_rename hname d s)

/-- What is made of a picture without a look at names is made of the renamed picture too. -/
theorem Layout.checked_rename_bind {β : Type} {next : Layout α → Except Failure β}
    (h : ∀ l, next (l.rename name) = next l) :
    (checked (d.rename name) s >>= next) = (checked d s >>= next) := by
  rw [checked_rename hname]
  cases checked d s with
  | error failure => rfl
  | ok l => exact h l

end

/-! ## Documents -/

section

variable (name : String → String) {α : Type} [Scalar α] (l : Layout α)

theorem Layout.cells_rename (dx dy : α) : (l.rename name).cells dx dy = l.cells dx dy := by
  simp only [cells, rename, reword, List.flatMap_map, List.map_map]
  rfl

theorem Layout.slideItems_rename (dx dy : α) :
    (l.rename name).slideItems dx dy = l.slideItems dx dy := by
  simp only [slideItems, rename, reword, List.flatMap_map, List.map_map]
  rfl

theorem Sheet.ofLayout_rename : ofLayout (l.rename name) = ofLayout l := by
  rw [ofLayout, Layout.rename, pageSize_reword, pageOffset_reword, ofLayout]
  refine congrArg (pageSize l >>= ·) (funext fun size ↦ ?_)
  exact congrArg (fun cells ↦ (.ok ⟨size.1, size.2, cells⟩ : Except Failure (Sheet α)))
    (Layout.cells_rename name l _ _)

theorem drawioDocument_rename (now : Timestamp) :
    drawioDocument now (l.rename name) = drawioDocument now l := by
  rw [drawioDocument, Sheet.ofLayout_rename, drawioDocument]

theorem Slide.ofLayout_rename : ofLayout (l.rename name) = ofLayout l := by
  have hgeometry : slideGeometry (l.rename name) = slideGeometry l := by
    rw [slideGeometry, Layout.rename, Layout.bounds_reword, slideGeometry]
  rw [ofLayout, hgeometry, Layout.slideItems_rename, ofLayout]

theorem deckOfLayout_rename : deckOfLayout (l.rename name) = deckOfLayout l := by
  rw [deckOfLayout, Slide.ofLayout_rename, deckOfLayout]

end

/-- **A renamed diagram has the same documents**, whatever its names refer to, and in any
arithmetic.  Its picture differs in the names that the shapes carry and in nothing else; the draw.io
document, or the failure to have one, is the same, and so are the items on the slide and the deck
that holds them. -/
theorem documents_rename {name : String → String} (hname : Function.Injective name) {α : Type}
    [Scalar α] (now : Timestamp) (d : Diagram) (s : Settings α) :
    Layout.ofDiagram (d.rename name) s = (Layout.ofDiagram d s).rename name ∧
      (Layout.checked (d.rename name) s >>= drawioDocument now) =
        (Layout.checked d s >>= drawioDocument now) ∧
      Slide.ofLayout (Layout.ofDiagram (d.rename name) s) =
        Slide.ofLayout (Layout.ofDiagram d s) ∧
      (Layout.checked (d.rename name) s >>= deckOfLayout) =
        (Layout.checked d s >>= deckOfLayout) := by
  refine ⟨Layout.ofDiagram_rename hname d s, ?_, ?_, ?_⟩
  · exact Layout.checked_rename_bind hname d s fun l ↦ drawioDocument_rename name l now
  · rw [Layout.ofDiagram_rename hname, Slide.ofLayout_rename]
  · exact Layout.checked_rename_bind hname d s fun l ↦ deckOfLayout_rename name l

/-- A diagram in which one name is declared twice and one not at all, and a loop that does not agree
with the messages. -/
def Diagram.tangled : Diagram where
  participants := [⟨"a", "b"⟩, ⟨"b", "a"⟩, ⟨"a", ""⟩]
  messages := [⟨"b", "a", "a", .solid⟩, ⟨"a", "c", "", .lost⟩]
  notes := [⟨.across, ["b", "a", "b"], "b"⟩, ⟨.leftOf, ["c"], "c"⟩]
  loops := [⟨"a", [⟨"a", "b", "b", .async⟩], -1, 7, -2⟩]

/-- The two names that are declared change places. -/
theorem documents_rename_tangled :
    let name := Equiv.swap "a" "b"
    let now := Timestamp.ofMicroseconds 0
    let s : Settings Rat := Settings.standard
    Function.Injective name ∧
      Diagram.tangled.rename name =
        { participants := [⟨"b", "b"⟩, ⟨"a", "a"⟩, ⟨"b", ""⟩]
          messages := [⟨"a", "b", "a", .solid⟩, ⟨"b", "c", "", .lost⟩]
          notes := [⟨.across, ["a", "b", "a"], "b"⟩, ⟨.leftOf, ["c"], "c"⟩]
          loops := [⟨"a", [⟨"b", "a", "b", .async⟩], -1, 7, -2⟩] } ∧
      (Layout.checked (Diagram.tangled.rename name) s >>= drawioDocument now) =
        (Layout.checked Diagram.tangled s >>= drawioDocument now) := by
  intro name now s
  have hname : Function.Injective name := Equiv.injective name
  exact ⟨hname, by decide +kernel, (documents_rename hname now Diagram.tangled s).2.1⟩

end SequenceChart
