import SequenceChart.Proofs.Layout.Extent
import SequenceChart.Proofs.Slide.Storing

/-!
# Pictures that are too large for a slide

A presentation holds no slide of more than fifty-six inches to a side.  A slide is as large as its
picture and the margins, and nothing limits the size of a picture: so a long source has a document
but no presentation.  Nothing else is refused, since a slide is never too small and XML can hold all
texts that are read from a source.

How much is too much depends on what is drawn in the outermost columns and rows.  Twenty-eight
participants and eighty-six messages and notes always fit, with loops up to fourteen deep; thirty
participants never do, nor does a message behind eighty-eight others.

## Main definitions

* `Outgrows` — that a side of a picture is too long for a slide.

## Main statements

* `slideSide_of_outgrows`, `exists_slideSide_eq_ok` — the sides that are refused.
* `deckOfLayout_eq_error_iff` — a deck is refused for its sides only.
* `not_outgrows_of_counts` — what fits on every slide.
* `deck_eq_error_iff` — when a source text has no deck, exactly and by counting.
* `exists_document_without_deck` — thirty participants.
-/

set_option autoImplicit false
namespace SequenceChart

/-! ## The sides of a slide -/

/-- A side of a picture is too long for a slide if with its margins it takes more than fifty-six
inches, by a unit at least. -/
def Outgrows (extent : Rat) : Prop :=
  56 + 1 / 914400 ≤ extent / 96 + 3 / 5

/-- Whole units are stored, so a length that is beyond the greatest side is a unit beyond it. -/
theorem greatestSlideSide_lt_units_iff {length : Rat} (h : 0 ≤ length) :
    greatestSlideSide < units length ↔ 56 + 1 / 914400 ≤ length := by
  have hgreatest : greatestSlideSide < units length ↔ 51206401 ≤ units length := Iff.rfl
  rw [hgreatest, units_eq_floor h, Int.le_floor]
  constructor <;> intro h <;> push_cast at * <;> linarith

section

variable {least extent : Rat} (hone : 1 ≤ least) (hleast : least ≤ 56)

include hone hleast

/-- The sides that are refused are those of pictures that outgrow the slide. -/
theorem refused_iff_outgrows :
    units (max least (extent / 96 + 3 / 5)) < leastSlideSide ∨
        greatestSlideSide < units (max least (extent / 96 + 3 / 5)) ↔ Outgrows extent := by
  have hinch : 1 ≤ max least (extent / 96 + 3 / 5) := hone.trans (le_max_left _ _)
  have hsmall : leastSlideSide ≤ units (max least (extent / 96 + 3 / 5)) := by
    have hunit : units 1 = leastSlideSide := by
      rw [units_eq_floor zero_le_one]
      norm_num [leastSlideSide]
    exact hunit ▸ units_le_units zero_le_one hinch
  rw [or_iff_right (not_lt.2 hsmall), greatestSlideSide_lt_units_iff (zero_le_one.trans hinch),
    le_max_iff]
  exact or_iff_right (by linarith)

/-- **A side that outgrows the slide is refused.** -/
theorem slideSide_of_outgrows (h : Outgrows extent) :
    slideSide (Scalar.greater least (inches extent + slideMargin * 2.0)) =
      .error (.slideSize (units (extent / 96 + 3 / 5))) := by
  have hside : max least (extent / 96 + 3 / 5) = extent / 96 + 3 / 5 :=
    max_eq_right ((hleast.trans (by norm_num)).trans h)
  rw [inches_add_margins, Scalar.greater_eq_max, slideSide_eq,
    if_pos ((refused_iff_outgrows hone hleast).2 h), hside]

/-- **Any other side is stored.** -/
theorem exists_slideSide_eq_ok (h : ¬ Outgrows extent) :
    ∃ n, slideSide (Scalar.greater least (inches extent + slideMargin * 2.0)) = .ok n := by
  rw [inches_add_margins, Scalar.greater_eq_max, slideSide_eq,
    if_neg (mt (refused_iff_outgrows hone hleast).1 h)]
  exact ⟨_, rfl⟩

end

/-! ## Decks -/

/-- XML can hold the texts on the slide of a diagram if it can hold those that the diagram shows. -/
theorem Diagram.IsWritable.texts_slideItems {α : Type} [Scalar α] {d : Diagram} {s : Settings α}
    (hd : d.IsWritable) :
    ∀ t ∈ (Slide.ofLayout (Layout.ofDiagram d s)).items.filterMap SlideItem.text?,
      isXmlText t = true := by
  intro t ht
  by_contra hxml
  have hne : t ≠ "" := ne_empty_of_isXmlText_eq_false (Bool.not_eq_true _ ▸ hxml)
  have hmem : t ∈ ((Slide.ofLayout (Layout.ofDiagram d s)).items.filterMap
      SlideItem.text?).filter (!·.isEmpty) :=
    List.mem_filter.2 ⟨ht, by simpa using hne⟩
  rw [Slide.ofLayout, Layout.texts_slideItems _ 0.0 0.0] at hmem
  obtain ⟨c, hc, rfl⟩ := List.mem_map.1 (List.mem_of_mem_filter hmem)
  exact hxml (hd _ ((Layout.exists_mem_cells_iff hne).1 ⟨c, hc, rfl⟩))

/-- **A deck is refused for its sides only**, for its width before its height, if XML can hold what
the diagram shows. -/
theorem deckOfLayout_eq_error_iff {d : Diagram} {s : Settings Rat} (hd : d.IsWritable)
    (f : Failure) :
    deckOfLayout (Layout.ofDiagram d s) = .error f ↔
      Outgrows (Layout.ofDiagram d s).bounds.width ∧
          f = .slideSize (units ((Layout.ofDiagram d s).bounds.width / 96 + 3 / 5)) ∨
        ¬ Outgrows (Layout.ofDiagram d s).bounds.width ∧
          Outgrows (Layout.ofDiagram d s).bounds.height ∧
            f = .slideSize (units ((Layout.ofDiagram d s).bounds.height / 96 + 3 / 5)) := by
  have hten : 1 ≤ (10.0 : Rat) ∧ (10.0 : Rat) ≤ 56 := by norm_num
  have hleast : 1 ≤ (5.625 : Rat) ∧ (5.625 : Rat) ≤ 56 := by norm_num
  obtain ⟨shapes, hdeck⟩ := Slide.toDeck_eq_of_texts (hd.texts_slideItems (s := s))
  rw [deckOfLayout, hdeck, Slide.ofLayout, slideGeometry]
  by_cases hwidth : Outgrows (Layout.ofDiagram d s).bounds.width
  · rw [slideSide_of_outgrows hten.1 hten.2 hwidth]
    simp [hwidth, eq_comm]
  · obtain ⟨width, hwidth'⟩ := exists_slideSide_eq_ok hten.1 hten.2 hwidth
    by_cases hheight : Outgrows (Layout.ofDiagram d s).bounds.height
    · rw [hwidth', slideSide_of_outgrows hleast.1 hleast.2 hheight]
      simp [hwidth, hheight, eq_comm]
    · obtain ⟨height, hheight'⟩ := exists_slideSide_eq_ok hleast.1 hleast.2 hheight
      rw [hwidth', hheight']
      simp [hwidth, hheight]

/-- What is not refused is there. -/
theorem exists_deckOfLayout_eq_ok {d : Diagram} {s : Settings Rat} (hd : d.IsWritable)
    (hwidth : ¬ Outgrows (Layout.ofDiagram d s).bounds.width)
    (hheight : ¬ Outgrows (Layout.ofDiagram d s).bounds.height) :
    ∃ deck, deckOfLayout (Layout.ofDiagram d s) = .ok deck := by
  cases h : deckOfLayout (Layout.ofDiagram d s) with
  | error f => exact absurd ((deckOfLayout_eq_error_iff hd f).1 h) (by simp [hwidth, hheight])
  | ok deck => exact ⟨deck, rfl⟩

/-! ## Counting -/

section

variable {d : Diagram}

theorem outgrows_of_le {a b : Rat} (ha : Outgrows a) (h : a ≤ b) : Outgrows b :=
  ha.trans (add_le_add_left (div_le_div_of_nonneg_right h (by norm_num)) _)

/-- Thirty headers outgrow a slide. -/
theorem outgrows_of_participants (h : 30 ≤ d.participants.length) :
    Outgrows d.picture.bounds.width := by
  have hcount : (30 : Rat) ≤ d.participants.length := by exact_mod_cast h
  have hwidth := Layout.le_width_of_participants (by omega : 0 < d.participants.length)
  exact outgrows_of_le (a := 5320) (by norm_num [Outgrows]) (by linarith)

/-- So does a message behind eighty-eight others. -/
theorem outgrows_of_message {m : MessageShape Rat} (hm : m ∈ d.picture.messages)
    (h : 88 ≤ m.index) : Outgrows d.picture.bounds.height := by
  have hindex : (88 : Rat) ≤ m.index := by exact_mod_cast h
  have hheight := Layout.le_height_of_message hm
  exact outgrows_of_le (a := 5370) (by norm_num [Outgrows]) (by linarith)

/-- So do messages and notes below them, if there are eighty-eight of both. -/
theorem outgrows_of_notes (hne : d.picture.notes ≠ [])
    (h : 88 ≤ d.messages.length + d.picture.notes.length) :
    Outgrows d.picture.bounds.height := by
  have hcount : (88 : Rat) ≤ d.messages.length + d.picture.notes.length := by exact_mod_cast h
  have hheight := Layout.le_height_of_notes hne
  exact outgrows_of_le (a := 5370) (by norm_num [Outgrows]) (by linarith)

/-- So does a frame with five hundred and twenty-five loops around it. -/
theorem outgrows_of_frame {l : LoopShape Rat} (hl : l ∈ d.picture.loops)
    (hfirst : 0 ≤ l.loop.first) (h : 525 ≤ l.loop.depth) :
    Outgrows d.picture.bounds.height := by
  have hdepth : (525 : Rat) ≤ l.loop.depth := by exact_mod_cast h
  have hheight := Layout.le_height_of_frame hl hfirst
  exact outgrows_of_le (a := 5320) (by norm_num [Outgrows]) (by linarith)

/-- **What fits on every slide.** -/
theorem not_outgrows_of_counts (hslice : ∀ l ∈ d.loops, l.IsSlice d.messages)
    (hdepth : ∀ l ∈ d.loops, 0 ≤ l.depth ∧ l.depth ≤ 14) (hcolumns : d.participants.length ≤ 28)
    (hrows : d.messages.length + d.notes.length ≤ 86) :
    ¬ Outgrows d.picture.bounds.width ∧ ¬ Outgrows d.picture.bounds.height := by
  obtain ⟨hwidth, hheight⟩ := Layout.bounds_le hslice hdepth
  have hcolumns' : (d.participants.length : Rat) ≤ 28 := by exact_mod_cast hcolumns
  have hrows' : ((d.messages.length + d.notes.length : Nat) : Rat) ≤ 86 := by exact_mod_cast hrows
  have hfits : ¬ Outgrows 5310 := by norm_num [Outgrows]
  refine ⟨fun h ↦ hfits (outgrows_of_le h ?_), fun h ↦ hfits (outgrows_of_le h ?_)⟩
  · linarith
  · exact hheight.trans (max_le (by norm_num) (by linarith))

end

/-! ## Source texts -/

/-- A source text that declares thirty participants, each named by a letter. -/
def thirtyParticipants : String :=
  String.ofList (['\n'].intercalate
    ("ABCDEFGHIJKLMNOPQRSTUVWXYZabcd".toList.map fun c ↦ "participant ".toList ++ [c]))

theorem length_thirtyParticipants :
    (Diagram.ofText thirtyParticipants).participants.length = 30 := by
  have hplain : ∀ l ∈ "ABCDEFGHIJKLMNOPQRSTUVWXYZabcd".toList.map fun c ↦
      "participant ".toList ++ [c], IsPlain l := by
    have hall : (("ABCDEFGHIJKLMNOPQRSTUVWXYZabcd".toList.map fun c ↦
        "participant ".toList ++ [c]).all fun l ↦
          l.all fun c ↦ isXmlChar c && c != '\n') = true := by decide +kernel
    exact fun l hl ↦ isPlain_of_all (List.all_eq_true.1 hall l hl)
  rw [Diagram.ofText_eq, statements, thirtyParticipants, sourceLines_intercalate hplain]
  decide +kernel

/-- **When a source text has no deck**, at standard measures: if and only if the picture outgrows
the slide, and then the failure names the first side that is too long.  It does so if there are too
many participants, messages, notes or loops around one another, and does not if there are few.  At
any measures, and where coordinates are rounded too, no deck fails for a text. -/
theorem deck_eq_error_iff (text : String) :
    let d := Diagram.ofText text
    let picture : Layout Rat := Layout.ofDiagram d Settings.standard
    (∀ f, convertToDeck (Settings.standard : Settings Rat) text = .error f ↔
      Outgrows picture.bounds.width ∧ f = .slideSize (units (picture.bounds.width / 96 + 3 / 5)) ∨
        ¬ Outgrows picture.bounds.width ∧ Outgrows picture.bounds.height ∧
          f = .slideSize (units (picture.bounds.height / 96 + 3 / 5))) ∧
    (30 ≤ d.participants.length ∨ (∃ m ∈ picture.messages, 88 ≤ m.index) ∨
        (picture.notes ≠ [] ∧ 88 ≤ d.messages.length + picture.notes.length) ∨
        (∃ l ∈ picture.loops, 525 ≤ l.loop.depth) →
      ∃ n, convertToDeck (Settings.standard : Settings Rat) text = .error (.slideSize n)) ∧
    (d.participants.length ≤ 28 → d.messages.length + d.notes.length ≤ 86 →
        (∀ l ∈ d.loops, l.depth ≤ 14) →
      ∃ deck, convertToDeck (Settings.standard : Settings Rat) text = .ok deck) ∧
    ∀ (α : Type) [Scalar α] (s : Settings α) (f : Failure), convertToDeck s text = .error f →
      (∃ n, f = .slideSize n) ∨ ∃ cause, f = .notFinite cause := by
  intro d picture
  have hd : d.IsWritable := Diagram.isWritable_ofText text
  have hslice : ∀ l ∈ d.loops, l.IsSlice d.messages := fun l hl ↦ isSlice_of_mem_loops hl
  have hiff := deckOfLayout_eq_error_iff (s := (Settings.standard : Settings Rat)) hd
  -- one side is enough
  have hrefused (h : Outgrows picture.bounds.width ∨ Outgrows picture.bounds.height) :
      ∃ n, convertToDeck (Settings.standard : Settings Rat) text = .error (.slideSize n) := by
    by_cases hwidth : Outgrows picture.bounds.width
    · exact ⟨_, (hiff _).2 (.inl ⟨hwidth, rfl⟩)⟩
    · exact ⟨_, (hiff _).2 (.inr ⟨hwidth, h.resolve_left hwidth, rfl⟩)⟩
  refine ⟨hiff, fun h ↦ hrefused ?_, fun hcolumns hrows hdepth ↦ ?_,
    fun _ _ _ ↦ Slide.failsOnly_toDeck hd.texts_slideItems⟩
  · rcases h with hcolumns | ⟨m, hm, hrow⟩ | ⟨hne, hrows⟩ | ⟨l, hl, hdepth⟩
    · exact .inl (outgrows_of_participants hcolumns)
    · exact .inr (outgrows_of_message hm hrow)
    · exact .inr (outgrows_of_notes hne hrows)
    · have hmem := List.mem_of_getElem? (Layout.getElem?_of_mem_loops _ _ hl)
      exact .inr (outgrows_of_frame hl (hslice _ hmem).first_nonneg hdepth)
  · have hfits := not_outgrows_of_counts hslice
      (fun l hl ↦ ⟨depth_nonneg_of_mem_loops hl, hdepth l hl⟩) hcolumns hrows
    exact exists_deckOfLayout_eq_ok hd hfits.1 hfits.2

/-- One message in a loop has a deck, and thirty participants have none. -/
theorem deck_eq_error_iff_counts :
    (∃ deck, convertToDeck (Settings.standard : Settings Rat)
        "participant A\nloop a\nA->>A: x\nend" = .ok deck) ∧
      ∃ n, convertToDeck (Settings.standard : Settings Rat) thirtyParticipants =
        .error (.slideSize n) := by
  obtain ⟨-, -, hdeck, -⟩ := deck_eq_error_iff "participant A\nloop a\nA->>A: x\nend"
  obtain ⟨-, hrefused, -⟩ := deck_eq_error_iff thirtyParticipants
  refine ⟨hdeck ?_ ?_ ?_, hrefused (.inl length_thirtyParticipants.ge)⟩
  · decide +kernel
  · decide +kernel
  · decide +kernel

/-- Thirty participants have a document but no deck. -/
theorem exists_document_without_deck :
    (∀ now, ∃ document, convertToDrawio now (Settings.standard : Settings Rat)
        thirtyParticipants = .ok document) ∧
      ∃ n, convertToDeck (Settings.standard : Settings Rat) thirtyParticipants =
        .error (.slideSize n) := by
  have hd := Diagram.isWritable_ofText thirtyParticipants
  constructor
  · intro now
    obtain ⟨sheet, hsheet⟩ := Sheet.exists_ofLayout_eq_ok
      (Layout.ofDiagram (Diagram.ofText thirtyParticipants) Settings.standard)
    exact ⟨_, drawioDocument_eq_ok now hd hsheet⟩
  · exact ⟨_, (deckOfLayout_eq_error_iff hd _).2
      (.inl ⟨outgrows_of_participants length_thirtyParticipants.ge, rfl⟩)⟩

end SequenceChart
