import Highlighter.Proofs.Highlight.Appended
import Highlighter.Proofs.Segment.Fuse
import Highlighter.Proofs.Span.Sweep
import Mathlib.Data.List.Perm.Basic

/-!
# Starting afresh after a line break

If a text leaves no block comment open at its end, then what comes after a line break is highlighted
as if it stood alone. The finds of the two texts may be told apart by where they start, so sorting
and sweeping deal with one after the other (`Block.scan_append_newline_of_closed`); the lines of the
second text see only its own comments; and of the segments, none but those at the line break can
join.
-/

namespace Highlighter

namespace Block

variable {rules : RuleSet} {earlier later text : Text}

/-! ### Finds of two texts -/

theorem precedes_antisymm {left right : Span} (hcategory : left.category = right.category)
    (h : precedes left right = true) (h' : precedes right left = true) : left = right := by
  have hstart : left.start = right.start :=
    Nat.le_antisymm (start_le_of_precedes h) (start_le_of_precedes h')
  simp only [precedes, hstart, ne_eq, not_true_eq_false, if_false, decide_eq_true_eq] at h h'
  have hstop : left.stop = right.stop := Nat.le_antisymm h' h
  exact Span.ext hstart hstop hcategory

theorem category_of_mem_finds : ∀ span ∈ finds rules text, span.category = .comment := by
  intro span hspan
  obtain ⟨⟨opener, closer⟩, -, hfind⟩ := List.mem_flatMap.mp hspan
  exact Span.category_of_mem_delimited span hfind

theorem bounds_of_mem_finds :
    ∀ span ∈ finds rules text, span.start ≤ span.stop ∧ span.stop ≤ text.size := by
  intro span hspan
  obtain ⟨⟨opener, closer⟩, -, hfind⟩ := List.mem_flatMap.mp hspan
  have hbounds := Span.bounds_of_mem_delimited span hfind
  omega

/-- Spans of which one part starts before the other are sorted part by part. -/
theorem mergeSort_precedes_of_perm_append {spans left right : List Span}
    (hperm : spans.Perm (left ++ right)) (hcategory : ∀ span ∈ spans, span.category = .comment)
    (hbefore : ∀ first ∈ left, ∀ second ∈ right, first.start < second.start) :
    spans.mergeSort precedes = left.mergeSort precedes ++ right.mergeSort precedes := by
  have hsorted (spans : List Span) :=
    List.pairwise_mergeSort precedes_trans precedes_total spans
  have hparts : (spans.mergeSort precedes).Perm
      (left.mergeSort precedes ++ right.mergeSort precedes) :=
    (List.mergeSort_perm spans _).trans
      (hperm.trans ((List.mergeSort_perm left _).append (List.mergeSort_perm right _)).symm)
  have hcross : ∀ first ∈ left.mergeSort precedes, ∀ second ∈ right.mergeSort precedes,
      precedes first second = true := by
    intro first hfirst second hsecond
    have hlt := hbefore first (List.mem_mergeSort.mp hfirst) second (List.mem_mergeSort.mp hsecond)
    simp [precedes, hlt, Nat.ne_of_lt hlt]
  have hantisymm : ∀ first second, first ∈ spans.mergeSort precedes →
      second ∈ left.mergeSort precedes ++ right.mergeSort precedes →
      precedes first second = true → precedes second first = true → first = second := by
    intro first second hfirst hsecond h h'
    apply precedes_antisymm _ h h'
    rw [hcategory first (List.mem_mergeSort.mp hfirst),
      hcategory second (List.mem_mergeSort.mp (hparts.mem_iff.mpr hsecond))]
  exact List.Perm.eq_of_pairwise hantisymm (hsorted spans)
    (List.pairwise_append.mpr ⟨hsorted left, hsorted right, hcross⟩) hparts

theorem mergeSort_precedes_map_shift (spans : List Span) (distance : Nat) :
    (spans.map (·.shift distance)).mergeSort precedes
      = (spans.mergeSort precedes).map (·.shift distance) := by
  refine (List.map_mergeSort ?_).symm
  intro left _ right _
  simp [precedes, Span.shift]

/-- The text leaves no comment open: every marker for blocks finds a closer for all its openers. -/
def Closed (rules : RuleSet) (text : Text) : Prop :=
  ∀ opener closer, (opener, closer) ∈ rules.blockMarkers → Span.Closed opener closer text

theorem finds_append_newline_of_closed (h : Closed rules earlier) (later : Text) :
    (finds rules (earlier ++ '\n' :: later)).Perm
      (finds rules earlier ++ (finds rules later).map (·.shift (earlier.size + 1))) := by
  have hmarker : ∀ marker ∈ rules.blockMarkers,
      Span.delimited .comment marker.1 marker.2 0 (earlier ++ '\n' :: later)
        = Span.delimited .comment marker.1 marker.2 0 earlier ++
          (Span.delimited .comment marker.1 marker.2 0 later).map
            (·.shift (earlier.size + 1)) := by
    rintro ⟨opener, closer⟩ hmem
    obtain ⟨hopener, hcloser⟩ := RuleSet.newline_not_mem_of_mem_blockMarkers hmem
    have hnewline : '\n'.utf8Size = 1 := rfl
    rw [Span.delimited_append_cons_of_closed hopener hcloser (h opener closer hmem),
      ← Span.delimited_add, hnewline, Nat.zero_add, Nat.zero_add]
  rw [finds, List.flatMap_congr hmarker, finds, finds, List.map_flatMap]
  exact (List.flatMap_append_perm ..).symm

/-- **Comments of two texts.** After a text that leaves no comment open, the comments that follow a
line break are those of the second text alone. -/
theorem scan_append_newline_of_closed (h : Closed rules earlier) (later : Text) :
    scan rules (earlier ++ '\n' :: later)
      = scan rules earlier ++ (scan rules later).map (·.shift (earlier.size + 1)) := by
  have hstop : ∀ span ∈ finds rules earlier,
      span.start < earlier.size + 1 ∧ span.stop ≤ earlier.size + 1 := by
    intro span hspan
    have hbounds := bounds_of_mem_finds span hspan
    omega
  have hstart (spans : List Span) : ∀ span ∈ spans.map (·.shift (earlier.size + 1)),
      earlier.size + 1 ≤ span.start := by
    intro span hspan
    obtain ⟨span, -, rfl⟩ := List.mem_map.mp hspan
    exact Nat.le_add_left ..
  have hsorted := mergeSort_precedes_of_perm_append (finds_append_newline_of_closed h later)
    category_of_mem_finds fun first hfirst second hsecond =>
      Nat.lt_of_lt_of_le (hstop first hfirst).1 (hstart _ second hsecond)
  have hstop' : ∀ span ∈ (finds rules earlier).mergeSort precedes,
      span.stop ≤ earlier.size + 1 :=
    fun span hspan => (hstop span (List.mem_mergeSort.mp hspan)).2
  have hshift := Span.sweep_map_shift 0 (earlier.size + 1) ((finds rules later).mergeSort precedes)
  rw [Nat.zero_add] at hshift
  rw [scan, hsorted, mergeSort_precedes_map_shift,
    Span.sweep_append (Nat.zero_le _) hstop' (hstart _), hshift]
  rfl

end Block

/-! ### Cells of two texts -/

section Cells

variable {rules : RuleSet} {earlier : Text}

theorem Block.any_contains_scan_eq_false (rules : RuleSet) (text : Text) {offset : Nat}
    (h : text.size ≤ offset) : (scan rules text).any (·.contains offset) = false := by
  rw [any_contains_scan, List.any_eq_false]
  intro span hspan
  have hbounds := bounds_of_mem_finds span hspan
  rw [Span.contains_eq_true_iff]
  omega

theorem Block.any_contains_scan_append_newline_of_closed (h : Closed rules earlier) (later : Text)
    (offset : Nat) :
    (scan rules (earlier ++ '\n' :: later)).any (·.contains (earlier.size + 1 + offset))
      = (scan rules later).any (·.contains offset) := by
  rw [scan_append_newline_of_closed h, List.any_append, Span.any_contains_map_shift,
    any_contains_scan_eq_false rules earlier (by omega), Bool.false_or]

theorem newlineCell_scan_append_newline_of_closed (h : Block.Closed rules earlier) (later : Text) :
    newlineCell (Block.scan rules (earlier ++ '\n' :: later)).toArray earlier.size
      = ⟨'\n', .plain⟩ := by
  have hlater : ((Block.scan rules later).map (·.shift (earlier.size + 1))).any
      (·.contains earlier.size) = false := by
    apply List.any_eq_false.mpr
    intro span hspan
    obtain ⟨span, -, rfl⟩ := List.mem_map.mp hspan
    rw [Span.contains_eq_true_iff, Span.shift]
    dsimp only
    omega
  rw [newlineCell, Span.anyContains_eq_any (Block.ordered_scan ..),
    Block.scan_append_newline_of_closed h, List.any_append, hlater,
    Block.any_contains_scan_eq_false rules earlier le_rfl]
  rfl

theorem cells_append_newline_of_closed (h : Block.Closed rules earlier) (lineRules : LineRules)
    (later : Text) :
    cells lineRules (Block.scan rules (earlier ++ '\n' :: later)).toArray
        (earlier ++ '\n' :: later).lines
      = cells lineRules (Block.scan rules earlier).toArray earlier.lines ++
        ⟨'\n', .plain⟩ :: cells lineRules (Block.scan rules later).toArray later.lines := by
  have hright : Text.placed (earlier.size + 1) (Text.pieces '\n' later) ≠ [] :=
    Text.placed_ne_nil _ (Text.pieces_ne_nil '\n' later)
  have hlast : (earlier.lines.getLast earlier.lines_ne_nil).stop = earlier.size := by
    obtain ⟨first, others, hlines⟩ := List.exists_cons_of_ne_nil earlier.lines_ne_nil
    have hstop := Text.stop_getLast_lines hlines
    simpa only [hlines] using hstop
  have hcells : cells lineRules (Block.scan rules (earlier ++ '\n' :: later)).toArray
        (Text.placed (earlier.size + 1) (Text.pieces '\n' later))
      = cells lineRules (Block.scan rules later).toArray later.lines := by
    apply cells_placed_congr (Block.ordered_scan ..) (Block.ordered_scan ..)
    intro distance _
    rw [Block.any_contains_scan_append_newline_of_closed h, Nat.zero_add]
  rw [Text.lines_append_newline, cells_append _ _ earlier.lines_ne_nil hright, hlast, hcells,
    newlineCell_scan_append_newline_of_closed h, cells_scan_append_newline]

end Cells

/-- **Starting afresh.** If a text leaves no comment open, then what follows a line break is
highlighted as a text of its own: neither its comments nor its segments change, and only at the line
break may segments of one category join. -/
theorem highlight_append_newline_of_closed (rules : RuleSet) (mode : Mode) {earlier : Text}
    (h : Block.Closed rules earlier) (later : Text) :
    Block.scan rules (earlier ++ '\n' :: later)
      = Block.scan rules earlier ++ (Block.scan rules later).map (·.shift (earlier.size + 1)) ∧
    highlight (earlier ++ '\n' :: later) rules mode
      = Segment.fuse (highlight earlier rules mode)
          (Segment.fuse [⟨earlier.size, ['\n'], .plain, Category.plain.style mode⟩]
            ((highlight later rules mode).map (·.shift (earlier.size + 1)))) := by
  refine ⟨Block.scan_append_newline_of_closed h later, ?_⟩
  have hnewline : (Cell.text [⟨'\n', .plain⟩]).size = 1 := rfl
  calc highlight (earlier ++ '\n' :: later) rules mode
      = Segment.ofCells mode 0
          (cells (LineRules.ofRuleSet rules) (Block.scan rules earlier).toArray earlier.lines ++
            ([⟨'\n', .plain⟩] ++
              cells (LineRules.ofRuleSet rules) (Block.scan rules later).toArray later.lines)) := by
        rw [highlight_eq_ofCells, cells_append_newline_of_closed h, List.singleton_append]
    _ = Segment.fuse (highlight earlier rules mode)
          (Segment.fuse (Segment.ofCells mode earlier.size [⟨'\n', .plain⟩])
            (Segment.ofCells mode (0 + (earlier.size + 1))
              (cells (LineRules.ofRuleSet rules) (Block.scan rules later).toArray
                later.lines))) := by
        rw [Segment.ofCells_append, Segment.ofCells_append, text_cells_lines, hnewline,
          highlight_eq_ofCells, Nat.zero_add, Nat.zero_add]
    _ = Segment.fuse (highlight earlier rules mode)
          (Segment.fuse [⟨earlier.size, ['\n'], .plain, Category.plain.style mode⟩]
            ((highlight later rules mode).map (·.shift (earlier.size + 1)))) := by
        rw [Segment.ofCells_add, highlight_eq_ofCells later]
        rfl

/-- Two comments that overlap are closed, and one is open in what follows. -/
theorem highlight_append_newline_of_overlapping :
    let rules : RuleSet := ⟨[], [], [], ["/* */".toList, "(* *)".toList], []⟩
    let earlier := "(*a /*b*) */\nx".toList
    let later := "y\n/* z".toList
    Block.Closed rules earlier ∧
      Block.scan rules (earlier ++ '\n' :: later)
        = Block.scan rules earlier ++ (Block.scan rules later).map (·.shift 15) ∧
      highlight (earlier ++ '\n' :: later) rules .dark
        = Segment.fuse (highlight earlier rules .dark)
            (Segment.fuse [⟨14, ['\n'], .plain, Category.plain.style .dark⟩]
              ((highlight later rules .dark).map (·.shift 15))) := by
  intro rules earlier later
  have hmarkers : rules.blockMarkers = [("/*".toList, "*/".toList), ("(*".toList, "*)".toList)] := by
    decide
  have hclosed : Block.Closed rules earlier := by
    intro opener closer hmem
    rw [hmarkers, List.mem_cons, List.mem_singleton] at hmem
    obtain hmarker | hmarker := hmem <;> obtain ⟨rfl, rfl⟩ := Prod.mk.inj hmarker
    · exact .stretch rfl rfl (.rest rfl)
    · exact .stretch rfl rfl (.rest rfl)
  exact ⟨hclosed, highlight_append_newline_of_closed rules .dark hclosed later⟩

end Highlighter
