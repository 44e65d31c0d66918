import Highlighter.Proofs.Output.Terminal
import Highlighter.Proofs.Text.Unquoted
import Highlighter.Text.Encoding
import Highlighter.Text.Line

/-!
# What a terminal shows

A screen takes one character after another. It shows a character in the style of its pen, unless the
character belongs to a control sequence; a sequence that selects styles changes the pen. Between two
segments the pen is neutral (`read?_pieces`), so no style leaks into what follows, and every
character is shown in the style of its own segment (`ofBytes?_render`).
-/

namespace Highlighter.Terminal

/-- How a screen shows characters. A color is its number in the palette of 256 colors; without a
number it is the one that the terminal uses by itself. -/
structure Pen where
  foreground : Option Nat := none
  background : Option Nat := none
  bold : Bool := false
  italic : Bool := false
  underline : Bool := false
  reverse : Bool := false
deriving DecidableEq, Repr

/-- A character as it is shown. -/
structure Glyph where
  char : Char
  pen : Pen
deriving DecidableEq, Repr

/-- How far a screen has come in a control sequence. -/
inductive Phase where
  | text
  | escape
  | parameters (before : List Nat) (number : Nat)
deriving DecidableEq, Repr

structure Screen where
  shown : List Glyph := []
  pen : Pen := {}
  phase : Phase := .text
deriving DecidableEq, Repr

/-- The pen after a sequence with some parameters, from the first one on. -/
def Pen.select? (pen : Pen) : List Nat → Option Pen
  | [] => some pen
  | 0 :: rest => ({} : Pen).select? rest
  | 1 :: rest => { pen with bold := true }.select? rest
  | 3 :: rest => { pen with italic := true }.select? rest
  | 4 :: rest => { pen with underline := true }.select? rest
  | 7 :: rest => { pen with reverse := true }.select? rest
  | 38 :: 5 :: number :: rest => { pen with foreground := some number }.select? rest
  | 48 :: 5 :: number :: rest => { pen with background := some number }.select? rest
  | _ => none

/-- The screen after one more character, unless that makes a sequence it does not know. -/
def Screen.receive? (screen : Screen) (char : Char) : Option Screen :=
  match screen.phase with
  | .text =>
    if char = '\x1b' then some { screen with phase := .escape }
    else some { screen with shown := screen.shown ++ [⟨char, screen.pen⟩] }
  | .escape =>
    if char = '[' then some { screen with phase := .parameters [] 0 } else none
  | .parameters before number =>
    if char.isDigit then
      some { screen with phase := .parameters before (10 * number + (char.toNat - '0'.toNat)) }
    else if char = ';' then some { screen with phase := .parameters (before ++ [number]) 0 }
    else if char = 'm' then do
      let pen ← screen.pen.select? (before ++ [number])
      return { screen with pen, phase := .text }
    else none

def Screen.read? (screen : Screen) (text : Text) : Option Screen :=
  text.foldlM Screen.receive? screen

/-- What a terminal shows of the bytes it is sent. -/
def Screen.ofBytes? (bytes : List UInt8) : Option Screen := do
  let text ← Text.ofUtf8? bytes.toByteArray
  ({} : Screen).read? text

/-- The named colors in the order of their numbers. -/
def palette : List Color :=
  [.black, .red, .green, .yellow, .blue, .magenta, .cyan, .white, .brightBlack, .brightRed,
    .brightGreen, .brightYellow, .brightBlue, .brightMagenta, .brightCyan, .brightWhite]

def color? : Option Nat → Option Color
  | none => some .default
  | some number => palette[number]?

/-- The style in which a pen shows characters, if its colors have names. -/
def Pen.style? (pen : Pen) : Option Style := do
  let foreground ← color? pen.foreground
  let background ← color? pen.background
  return ⟨foreground, background, pen.bold, pen.italic, pen.underline, pen.reverse⟩

def Pen.ofStyle (style : Style) : Pen :=
  ⟨number? style.foreground, number? style.background, style.bold, style.italic, style.underline,
    style.reverse⟩

theorem Pen.style?_ofStyle (style : Style) : (ofStyle style).style? = some style := by
  have hcolor (color : Color) : color? (number? color) = some color := by
    cases color <;> rfl
  simp [ofStyle, style?, hcolor]

/-! ### Reading -/

variable {shown : List Glyph} {pen pen' : Pen}

theorem Screen.read?_append (screen : Screen) (left right : Text) :
    screen.read? (left ++ right) = (screen.read? left).bind (·.read? right) :=
  List.foldlM_append

theorem Screen.read?_text {text : Text} (h : '\x1b' ∉ text) :
    Screen.read? ⟨shown, pen, .text⟩ text
      = some ⟨shown ++ text.map (⟨·, pen⟩), pen, .text⟩ := by
  induction text generalizing shown with
  | nil => simp [read?]
  | cons char rest ih =>
      obtain ⟨hchar, hrest⟩ : '\x1b' ≠ char ∧ '\x1b' ∉ rest := by simpa using h
      have hstep : receive? ⟨shown, pen, .text⟩ char
          = some ⟨shown ++ [⟨char, pen⟩], pen, .text⟩ := by
        simp [receive?, hchar.symm]
      have hread : read? ⟨shown ++ [⟨char, pen⟩], pen, .text⟩ rest
          = some ⟨shown ++ [⟨char, pen⟩] ++ rest.map (⟨·, pen⟩), pen, .text⟩ :=
        ih hrest
      rw [read?] at hread ⊢
      rw [List.foldlM_cons, hstep, Option.bind_eq_bind, Option.bind_some, hread]
      simp

theorem Screen.read?_digitChar (before : List Nat) (number : Nat) {digit : Nat} (h : digit < 10) :
    Screen.read? ⟨shown, pen, .parameters before number⟩ [Nat.digitChar digit]
      = some ⟨shown, pen, .parameters before (10 * number + digit)⟩ := by
  have hisDigit : ∀ digit < 10, (Nat.digitChar digit).isDigit = true := by decide
  have hvalue : ∀ digit < 10, (Nat.digitChar digit).toNat - '0'.toNat = digit := by decide
  simp only [read?, List.foldlM_cons, List.foldlM_nil, receive?, hisDigit digit h, hvalue digit h]
  rfl

/-- The digits of a number are read as the number. -/
theorem Screen.read?_toDigits (before : List Nat) (number : Nat) :
    Screen.read? ⟨shown, pen, .parameters before 0⟩ (Nat.toDigits 10 number)
      = some ⟨shown, pen, .parameters before number⟩ := by
  induction number using Nat.strongRecOn with
  | _ number ih =>
      rw [Nat.toDigits_eq_if (by decide)]
      split
      · next hlt =>
        rw [read?_digitChar before 0 hlt]
        simp
      · next hge =>
        have hmod : number % 10 < 10 := Nat.mod_lt number (by decide)
        have hdiv : number / 10 < number := by omega
        rw [read?_append, ih _ hdiv, Option.bind_some, read?_digitChar before _ hmod,
          Nat.div_add_mod]

/-- The parameters of a sequence, with a semicolon between each two. -/
def parameters (numbers : List Nat) : Text :=
  Text.join ';' (numbers.map (Nat.toDigits 10))

theorem Screen.read?_parameters (before : List Nat) (number : Nat) (later : List Nat) :
    Screen.read? ⟨shown, pen, .parameters before 0⟩ (parameters (number :: later) ++ ['m'])
      = (pen.select? (before ++ number :: later)).map (⟨shown, ·, .text⟩) := by
  induction later generalizing before number with
  | nil =>
      rw [read?_append]
      have hdigits : parameters [number] = Nat.toDigits 10 number := rfl
      rw [hdigits, read?_toDigits, Option.bind_some]
      have hletter : 'm'.isDigit = false := by decide
      cases hpen : pen.select? (before ++ [number]) <;> simp [read?, receive?, hletter, hpen]
  | cons next others ih =>
      have hparameters : parameters (number :: next :: others) ++ ['m']
          = Nat.toDigits 10 number ++ ([';'] ++ (parameters (next :: others) ++ ['m'])) := by
        simp [parameters, Text.join]
      have hsemicolon : read? ⟨shown, pen, .parameters before number⟩ [';']
          = some ⟨shown, pen, .parameters (before ++ [number]) 0⟩ := by
        rfl
      rw [hparameters, read?_append, read?_toDigits, Option.bind_some, read?_append, hsemicolon,
        Option.bind_some, ih, List.append_assoc]
      rfl

/-- A sequence changes nothing but the pen. -/
theorem Screen.read?_select {numbers : List Nat} (hne : numbers ≠ [])
    (h : pen.select? numbers = some pen') :
    Screen.read? ⟨shown, pen, .text⟩ (select (parameters numbers)) = some ⟨shown, pen', .text⟩ := by
  obtain ⟨number, later, rfl⟩ := List.exists_cons_of_ne_nil hne
  have hstart : read? ⟨shown, pen, .text⟩ ['\x1b', '[']
      = some ⟨shown, pen, .parameters [] 0⟩ := by
    rfl
  rw [select, List.append_assoc, read?_append, hstart, Option.bind_some, read?_parameters,
    List.nil_append, h, Option.map_some]

/-! ### Styles -/

/-- The sequence for a color gives the pen that color, if it has a number. -/
theorem Screen.read?_colorOf (shown : List Glyph) (layer : Nat) (colored : Option Nat → Pen)
    (h : ∀ number, (colored none).select? [layer, 5, number] = some (colored (some number)))
    (color : Color) :
    Screen.read? ⟨shown, colored none, .text⟩ (colorOf layer color).flatten
      = some ⟨shown, colored (number? color), .text⟩ := by
  unfold colorOf
  split
  · next number hnumber =>
    have hfive : Nat.toDigits 10 5 = ['5'] := by decide
    have hparameters : Nat.toDigits 10 layer ++ ";5;".toList ++ Nat.toDigits 10 number
        = parameters [layer, 5, number] := by
      simp [parameters, Text.join, hfive]
    rw [hparameters, List.flatten_singleton, hnumber]
    exact read?_select (by simp) (h number)
  · next hnone =>
    rw [hnone]
    rfl

theorem Screen.read?_flag (shown : List Glyph) (code : Char) (number : Nat)
    (hcode : Nat.toDigits 10 number = [code]) (flagged : Bool → Pen)
    (h : (flagged false).select? [number] = some (flagged true)) (set : Bool) :
    Screen.read? ⟨shown, flagged false, .text⟩ (flag code set).flatten
      = some ⟨shown, flagged set, .text⟩ := by
  cases set with
  | true =>
      have hflag : (flag code true).flatten = select (parameters [number]) := by
        simp [flag, hcode, parameters, Text.join]
      rw [hflag]
      exact read?_select (by simp) h
  | false => rfl

/-- Switching on a style makes the neutral pen the pen of the style. -/
theorem Screen.read?_switchOn (style : Style) :
    Screen.read? ⟨shown, {}, .text⟩ (switchOn style).flatten
      = some ⟨shown, .ofStyle style, .text⟩ := by
  obtain ⟨foreground, background, bold, italic, underline, reverse⟩ := style
  -- each part starts with the pen that the parts before it have made
  have hforeground := read?_colorOf shown 38
    (fun number => ⟨number, none, false, false, false, false⟩) (fun _ => rfl) foreground
  have hbackground := read?_colorOf shown 48
    (fun number => ⟨number? foreground, number, false, false, false, false⟩) (fun _ => rfl)
    background
  have hbold := read?_flag shown '1' 1 (by decide)
    (fun set => ⟨number? foreground, number? background, set, false, false, false⟩) rfl bold
  have hitalic := read?_flag shown '3' 3 (by decide)
    (fun set => ⟨number? foreground, number? background, bold, set, false, false⟩) rfl italic
  have hunderline := read?_flag shown '4' 4 (by decide)
    (fun set => ⟨number? foreground, number? background, bold, italic, set, false⟩) rfl underline
  have hreverse := read?_flag shown '7' 7 (by decide)
    (fun set => ⟨number? foreground, number? background, bold, italic, underline, set⟩) rfl reverse
  simp only [switchOn, List.flatten_append, read?_append, hforeground, hbackground, hbold, hitalic,
    hunderline, hreverse, Option.bind_some]
  rfl

theorem Screen.read?_reset :
    Screen.read? ⟨shown, pen, .text⟩ reset = some ⟨shown, {}, .text⟩ := by
  have hreset : reset = select (parameters [0]) := rfl
  rw [hreset]
  exact read?_select (by simp) rfl

/-! ### Segments -/

/-- The characters of a segment in its style. -/
def glyphs (segment : Segment) : List Glyph :=
  segment.text.map (⟨·, .ofStyle segment.style⟩)

/-- **Between two segments the pen is neutral.** -/
theorem Screen.read?_pieces {segment : Segment} (h : '\x1b' ∉ segment.text) :
    Screen.read? ⟨shown, {}, .text⟩ (pieces segment).flatten
      = some ⟨shown ++ glyphs segment, {}, .text⟩ := by
  cases hneutral : segment.style.isNeutral with
  | true =>
      have hpen : Pen.ofStyle segment.style = {} := by
        rw [of_decide_eq_true hneutral]
        rfl
      rw [flatten_pieces_of_neutral hneutral, read?_text h, glyphs, hpen]
  | false =>
      rw [flatten_pieces_of_styled hneutral, read?_append, read?_switchOn, Option.bind_some,
        read?_append, read?_text h, Option.bind_some, read?_append, read?_reset, Option.bind_some,
        read?_reset, glyphs]

theorem Screen.read?_render {segments : List Segment}
    (h : ∀ segment ∈ segments, '\x1b' ∉ segment.text) :
    Screen.read? ⟨shown, {}, .text⟩ (render segments).flatten
      = some ⟨shown ++ segments.flatMap glyphs, {}, .text⟩ := by
  induction segments generalizing shown with
  | nil => simp [render, read?]
  | cons segment rest ih =>
      obtain ⟨hsegment, hrest⟩ := List.forall_mem_cons.mp h
      rw [flatten_render_cons, read?_append, read?_pieces hsegment, Option.bind_some, ih hrest,
        List.flatMap_cons, List.append_assoc]

/-- **A terminal shows every character in the style of its segment**, if no text holds an escape
character: it shows the texts of the segments, one after another, and is left with the neutral
pen. -/
theorem ofBytes?_render {segments : List Segment}
    (h : ∀ segment ∈ segments, '\x1b' ∉ segment.text) :
    ∃ screen, Screen.ofBytes? (Text.utf8 (render segments).flatten) = some screen ∧
      screen.shown.map (·.char) = Segment.joined segments ∧
      screen.shown.map (fun glyph => (glyph.char, glyph.pen.style?))
        = segments.flatMap (fun segment => segment.text.map (·, some segment.style)) ∧
      screen.pen = {} ∧ screen.phase = .text := by
  have hread : Screen.ofBytes? (Text.utf8 (render segments).flatten)
      = some ⟨segments.flatMap glyphs, {}, .text⟩ := by
    rw [Screen.ofBytes?, Text.ofUtf8?_utf8]
    exact Screen.read?_render h
  refine ⟨_, hread, ?_, ?_, rfl, rfl⟩
  · simp [List.map_flatMap, glyphs, Segment.joined, Function.comp_def]
  · simp [List.map_flatMap, glyphs, Pen.style?_ofStyle, Function.comp_def]

/-- Two colors and two flags over a line break, flags without a text, and a neutral text. -/
theorem ofBytes?_render_of_flags :
    let loud : Style :=
      { foreground := .brightRed, background := .yellow, bold := true, reverse := true }
    let segments : List Segment :=
      [⟨0, "é\n".toList, .keyword, loud⟩, ⟨3, [], .comment, { italic := true, underline := true }⟩,
        ⟨3, "b".toList, .plain, .neutral⟩]
    (∀ segment ∈ segments, '\x1b' ∉ segment.text) ∧
      ∃ screen, Screen.ofBytes? (Text.utf8 (render segments).flatten) = some screen ∧
        screen.shown.map (·.char) = ['é', '\n', 'b'] ∧
        screen.shown.map (fun glyph => (glyph.char, glyph.pen.style?))
          = [('é', some loud), ('\n', some loud), ('b', some .neutral)] ∧
        screen.pen = {} ∧ screen.phase = .text := by
  intro loud segments
  have htexts : ∀ segment ∈ segments, '\x1b' ∉ segment.text := by
    simp [segments]
  exact ⟨htexts, ofBytes?_render htexts⟩

end Highlighter.Terminal
