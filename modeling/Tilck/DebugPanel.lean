import Mathlib.Logic.Function.Iterate
/-!
**The drawing helpers of the debug panel: `modules/debugpanel/termutil.c`.**

The debug panel draws on the terminal of the current process by writing escape sequences to it.
`termutil.c` formats each sequence with `vsnprintk` into a buffer and hands it to
`dp_write_internal`, which writes it through `term_write` on a video terminal, with the panel's
color or its reversed color, and through the terminal's `write` otherwise.  `dp_write` writes at a
row of the panel's scrollable area: it records the lowest row written in `dp_ctx->row_max`, drops
the rows scrolled out above `dp_ctx->row_off` or past `dp_end_row - 2`, and shifts the others up by
`row_off`.  `dp_draw_rect_raw` draws a frame with absolute cursor moves; `dp_draw_rect` draws it
through `dp_write`, one character at a time.

The buffers are modelled as lists of `Tilck.DebugPanel.Piece`: the sequences the sources format
(`"\033[%d;%dH"`, `"\033[%dC"`, ...), the text, and the macros whose bytes are defined outside the
sources (`GFX_ON`, `REVERSE_VIDEO`, ...).  What a terminal makes of them is this module's own
statement of their purpose, `Tilck.DebugPanel.Term`: a cursor, the line-drawing character set on or
off, a reverse attribute, and the cells.

Main definitions:

* `Tilck.DebugPanel.Panel` — the panel state the file reads and writes, with everything written;
* `Tilck.DebugPanel.dpWrite`, `Tilck.DebugPanel.dpDrawRectRaw`, `Tilck.DebugPanel.dpDrawRect` and
  the other functions of the file;
* `Tilck.DebugPanel.Term`, `Tilck.DebugPanel.Term.run` — a terminal, and what the writes do to it;
* `Tilck.DebugPanel.frameChar` — the frame of a rectangle, cell by cell.

Main results:

* `Tilck.DebugPanel.dpDrawRectRaw_eq` — `dp_draw_rect_raw` draws exactly the frame;
* `Tilck.DebugPanel.dpDrawRect_refines_raw` — where the whole frame is visible, `dp_draw_rect`
  leaves the terminal exactly as `dp_draw_rect_raw` at the scrolled row does;
* `Tilck.DebugPanel.dpDrawRect_label_eq` — with a label that `vsnprintk` does not cut,
  `dp_draw_rect` draws the frame and then `[ label ]` over its top edge, unclipped;
* `Tilck.DebugPanel.dpWrite_rows` — `dp_write` changes at most the row it writes to, and only inside
  the rows `[dp_screen_start_row, dp_end_row - 2]`;
* `Tilck.DebugPanel.dpDrawRect_rows` — whatever its arguments, `dp_draw_rect` changes no cell
  outside those rows.
-/

set_option relaxedAutoImplicit false
set_option autoImplicit false

namespace Tilck

namespace DebugPanel

/-! ### What the file writes -/

/-- The escape sequences the file writes through macros whose bytes are defined outside the
sources. -/
inductive Code where
  /-- `GFX_ON`, `GFX_OFF`: the line-drawing character set on and off. -/
  | gfxOn | gfxOff
  /-- `REVERSE_VIDEO`, `RESET_ATTRS`. -/
  | reverseVideo | resetAttrs
  /-- `ERASE_DISPLAY`. -/
  | eraseDisplay
  /-- `SHOW_CURSOR`, `HIDE_CURSOR`, `USE_ALT_BUF`, `USE_DEF_BUF`, `ESC_COLOR_GREEN`. -/
  | showCursor | hideCursor | useAltBuf | useDefBuf | colorGreen
  deriving DecidableEq, Repr

/-- A piece of a formatted buffer. -/
inductive Piece where
  | code (c : Code)
  /-- `"\033[%d;%dH"`: the cursor to `(row, col)`. -/
  | cursor (row col : Int)
  /-- `"\033[%dC"`, `"\033[%dD"`, `"\033[%dG"`. -/
  | right (n : Int)
  | left (n : Int)
  | toCol (n : Int)
  | text (s : List Char)
  deriving DecidableEq, Repr

/-- One `dp_write_internal(buf, len)`: the buffer, and the color `term_write` gets on a video
terminal, `DP_REV_COLOR` (`some true`) or `DP_COLOR` (`some false`); `none` on another terminal. -/
structure Write where
  buf : List Piece
  rev : Option Bool
  deriving DecidableEq, Repr

/-- The rows and the column of the panel, set by the debug panel outside this file:
`dp_screen_start_row`, `dp_end_row`, `dp_start_col`. -/
structure Layout where
  screenStartRow : Int
  endRow : Int
  startCol : Int
  deriving DecidableEq, Repr

/-- What the file reads and writes: whether the current process's terminal is a video terminal,
`rev_colors`, `dp_ctx->row_off` and `dp_ctx->row_max`, and everything written so far, the oldest
first. -/
structure Panel where
  video : Bool
  revColors : Bool
  rowOff : Int
  rowMax : Int
  out : List Write
  deriving DecidableEq, Repr

/-! ### The functions of the file -/

/-- The color `dp_write_internal` gives `term_write` on a video terminal, `DP_REV_COLOR` when
`rev_colors` is set; `none` on another terminal. -/
def Panel.color (p : Panel) : Option Bool := if p.video then some p.revColors else none

/-- `dp_write_internal(buf, len)`. -/
def dpWriteInternal (buf : List Piece) (p : Panel) : Panel :=
  { p with out := p.out ++ [⟨buf, p.color⟩] }

/-- `dp_write_raw(fmt, ...)`, with `buf` what `vsnprintk` writes into the 256 bytes of `buf`: at
most 255 bytes, a bound only the label of `dp_draw_rect` reaches (`Tilck.DebugPanel.labelBuf`). -/
def dpWriteRaw (buf : List Piece) (p : Panel) : Panel := dpWriteInternal buf p

/-- `dp_reverse_colors()`. -/
def dpReverseColors (p : Panel) : Panel :=
  if p.video then { p with revColors := true } else dpWriteRaw [.code .reverseVideo] p

/-- `dp_reset_attrs()`. -/
def dpResetAttrs (p : Panel) : Panel :=
  if p.video then { p with revColors := false } else dpWriteRaw [.code .resetAttrs] p

/-- `dp_move_right(n)`. -/
def dpMoveRight (n : Int) : Panel → Panel := dpWriteRaw [.right n]

/-- `dp_move_left(n)`. -/
def dpMoveLeft (n : Int) : Panel → Panel := dpWriteRaw [.left n]

/-- `dp_move_to_col(n)`. -/
def dpMoveToCol (n : Int) : Panel → Panel := dpWriteRaw [.toCol n]

/-- `dp_clear()`. -/
def dpClear : Panel → Panel := dpWriteRaw [.code .eraseDisplay]

/-- `dp_move_cursor(row, col)`. -/
def dpMoveCursor (row col : Int) : Panel → Panel := dpWriteRaw [.cursor row col]

/-- `dp_set_cursor_enabled(enabled)`. -/
def dpSetCursorEnabled (enabled : Bool) : Panel → Panel :=
  dpWriteRaw [.code (if enabled then .showCursor else .hideCursor)]

/-- `dp_switch_to_alt_buffer()`. -/
def dpSwitchToAltBuffer : Panel → Panel := dpWriteRaw [.code .useAltBuf]

/-- `dp_switch_to_default_buffer()`. -/
def dpSwitchToDefaultBuffer : Panel → Panel := dpWriteRaw [.code .useDefBuf]

/-- `dp_write(row, col, fmt, ...)`, with `buf` what `vsnprintk` writes into the 256 bytes of `buf`,
as in `Tilck.DebugPanel.dpWriteRaw`. -/
def dpWrite (L : Layout) (row col : Int) (buf : List Piece) (p : Panel) : Panel :=
  let relrow := row - L.screenStartRow
  let p := if relrow > p.rowMax then { p with rowMax := relrow } else p
  if relrow < p.rowOff then p
  else
    let row := row - p.rowOff
    if row > L.endRow - 2 then p
    else
      let col := if col = 0 then L.startCol + 2 else col
      dpWriteInternal buf (dpMoveCursor row col p)

/-- `for (int i = lo; i < lo + n; i++) body(i)`. -/
def loopFrom (body : Int → Panel → Panel) : Int → Nat → Panel → Panel
  | _, 0, p => p
  | i, n + 1, p => loopFrom body (i + 1) n (body i p)

/-- `ASSERT(p)`. -/
def assertThen (c : Prop) [Decidable c] (f : Panel → Panel) (p : Panel) : Option Panel :=
  if c then some (f p) else none

/-- `dp_draw_rect_raw(row, col, h, w)`. -/
def dpDrawRectRaw (row col h w : Int) : Panel → Option Panel :=
  assertThen (w ≥ 2 ∧ h ≥ 2) fun p =>
    let p := dpWriteRaw [.code .gfxOn] p
    let p := dpMoveCursor row col p
    let p := dpWriteRaw [.text ['l']] p
    let p := loopFrom (fun _ => dpWriteRaw [.text ['q']]) 0 (w - 2).toNat p
    let p := dpWriteRaw [.text ['k']] p
    let p := loopFrom (fun i p =>
      let p := dpMoveCursor (row + i) col p
      let p := dpWriteRaw [.text ['x']] p
      let p := dpMoveCursor (row + i) (col + w - 1) p
      dpWriteRaw [.text ['x']] p) 1 (h - 2).toNat p
    let p := dpMoveCursor (row + h - 1) col p
    let p := dpWriteRaw [.text ['m']] p
    let p := loopFrom (fun _ => dpWriteRaw [.text ['q']]) 0 (w - 2).toNat p
    let p := dpWriteRaw [.text ['j']] p
    dpWriteRaw [.code .gfxOff] p

/-- The text `"[ %s ]"` formats for the label `label`. -/
def labelText (label : List Char) : List Char := '[' :: ' ' :: label ++ [' ', ']']

/-- The bytes of `ESC_COLOR_GREEN` and of `RESET_ATTRS`, which are defined outside the sources:
the ANSI sequences `ESC [ 3 2 m` and `ESC [ 0 m`. -/
def colorGreenBytes : Nat := 5

def resetAttrsBytes : Nat := 4

/-- What `vsnprintk(buf, 256, ESC_COLOR_GREEN "[ %s ]" RESET_ATTRS, label)` writes for the label
`label`, at most 255 bytes, a character of the label being a byte: the whole buffer when it fits;
otherwise `ESC_COLOR_GREEN` and as much of `[ label ]` as fits after it, without `RESET_ATTRS`
(the first bytes of a cut `RESET_ATTRS` are left out). -/
def labelBuf (label : List Char) : List Piece :=
  if colorGreenBytes + (labelText label).length + resetAttrsBytes ≤ 255 then
    [.code .colorGreen, .text (labelText label), .code .resetAttrs]
  else [.code .colorGreen, .text ((labelText label).take (255 - colorGreenBytes))]

/-- `dp_draw_rect(label, row, col, h, w)`, with `none` for a `NULL` label. -/
def dpDrawRect (L : Layout) (label : Option (List Char)) (row col h w : Int) :
    Panel → Option Panel :=
  assertThen (w ≥ 2 ∧ h ≥ 2) fun p =>
    let p := dpWriteRaw [.code .gfxOn] p
    let p := dpWrite L row col [.text ['l']] p
    let p := loopFrom (fun i => dpWrite L row (col + i + 1) [.text ['q']]) 0 (w - 1).toNat p
    let p := dpWrite L row (col + w - 2 + 1) [.text ['k']] p
    let p := loopFrom (fun i p =>
      let p := dpWrite L (row + i) col [.text ['x']] p
      dpWrite L (row + i) (col + w - 1) [.text ['x']] p) 1 (h - 2).toNat p
    let p := dpWrite L (row + h - 1) col [.text ['m']] p
    let p := loopFrom (fun i => dpWrite L (row + h - 1) (col + i + 1) [.text ['q']]) 0
      (w - 1).toNat p
    let p := dpWrite L (row + h - 1) (col + w - 2 + 1) [.text ['j']] p
    let p := dpWriteRaw [.code .gfxOff] p
    match label with
    | some label => dpWrite L row (col + 2) (labelBuf label) p
    | none => p

/-! ### What a terminal makes of it -/

/-- A cell: the character, whether it was drawn in the line-drawing set, and whether in reverse
video. -/
structure Cell where
  ch : Char
  gfx : Bool
  rev : Bool
  deriving DecidableEq, Repr

/-- A terminal, as far as the panel's writes determine it: the cursor, the line-drawing set on or
off, the reverse attribute a terminal other than the video one keeps, and the cells of the screen
buffer in use (`USE_ALT_BUF` and `USE_DEF_BUF` switch buffers, which is not modelled). -/
@[ext] structure Term where
  row : Int
  col : Int
  gfx : Bool
  rev : Bool
  cells : Int → Int → Option Cell

/-- The character `ch` at the cursor, in reverse video when `rev`, and the cursor one column
right. -/
def Term.putChar (rev : Bool) (t : Term) (ch : Char) : Term :=
  { t with
    cells := fun r c => if r = t.row ∧ c = t.col then some ⟨ch, t.gfx, rev⟩ else t.cells r c
    col := t.col + 1 }

/-- A piece, written with the color `color` of its write. -/
def Term.piece (color : Option Bool) (t : Term) : Piece → Term
  | .code .gfxOn => { t with gfx := true }
  | .code .gfxOff => { t with gfx := false }
  | .code .reverseVideo => { t with rev := true }
  | .code .resetAttrs => { t with rev := false }
  | .code .eraseDisplay => { t with cells := fun _ _ => none }
  | .code _ => t
  | .cursor row col => { t with row, col }
  | .right n => { t with col := t.col + n }
  | .left n => { t with col := t.col - n }
  | .toCol n => { t with col := n }
  | .text s => s.foldl (Term.putChar (color.getD t.rev)) t

/-- What a write does to the terminal. -/
def Term.write (t : Term) (w : Write) : Term := w.buf.foldl (Term.piece w.rev) t

/-- What a list of writes does to the terminal. -/
def Term.run (t : Term) (ws : List Write) : Term := ws.foldl Term.write t

/-- The frame of `h` rows and `w` columns with its top left corner at `(row, col)`, at the cell
`(r, c)`: `l`, `k`, `m`, `j` at the corners, `q` along the top and bottom edges, `x` along the
sides, in the line-drawing set; `none` off the frame. -/
def frameChar (row col h w r c : Int) : Option Char :=
  if r = row ∨ r = row + h - 1 then
    if c = col then some (if r = row then 'l' else 'm')
    else if c = col + w - 1 then some (if r = row then 'k' else 'j')
    else if col < c ∧ c < col + w - 1 then some 'q'
    else none
  else if row < r ∧ r < row + h - 1 ∧ (c = col ∨ c = col + w - 1) then some 'x'
  else none

/-! ### The terminal, step by step -/

section TermSteps

variable (t : Term) (a : Bool) (ch : Char)

@[simp] theorem Term.write_cursor (r c : Int) (color : Option Bool) :
    t.write ⟨[.cursor r c], color⟩ = { t with row := r, col := c } := rfl

@[simp] theorem Term.write_char (color : Option Bool) :
    t.write ⟨[.text [ch]], color⟩ = t.putChar (color.getD t.rev) ch := rfl

@[simp] theorem Term.write_gfxOn (color : Option Bool) :
    t.write ⟨[.code .gfxOn], color⟩ = { t with gfx := true } := rfl

@[simp] theorem Term.write_gfxOff (color : Option Bool) :
    t.write ⟨[.code .gfxOff], color⟩ = { t with gfx := false } := rfl

@[simp] theorem Term.run_append (ws ws' : List Write) :
    Term.run t (ws ++ ws') = Term.run (Term.run t ws) ws' := List.foldl_append _ _ _ _

@[simp] theorem Term.putChar_row : (t.putChar a ch).row = t.row := rfl

@[simp] theorem Term.putChar_col : (t.putChar a ch).col = t.col + 1 := rfl

@[simp] theorem Term.putChar_gfx : (t.putChar a ch).gfx = t.gfx := rfl

@[simp] theorem Term.putChar_rev : (t.putChar a ch).rev = t.rev := rfl

@[simp] theorem Term.putChar_cells (r c : Int) :
    (t.putChar a ch).cells r c = if r = t.row ∧ c = t.col then some ⟨ch, t.gfx, a⟩ else t.cells r c :=
  rfl

/-- `n` times the character `ch`: the cells from the cursor on, and the cursor `n` columns
right. -/
theorem Term.iterate_putChar (n : Nat) :
    (fun u : Term => u.putChar a ch)^[n] t =
      { t with
        col := t.col + n
        cells := fun r c =>
          if r = t.row ∧ t.col ≤ c ∧ c < t.col + n then some ⟨ch, t.gfx, a⟩ else t.cells r c } := by
  induction n generalizing t with
  | zero =>
    refine Term.ext rfl (by simp) rfl rfl (funext fun r => funext fun c => ?_)
    dsimp only
    rw [if_neg (by omega)]
    rfl
  | succ n ih =>
    rw [Function.iterate_succ_apply, ih]
    refine Term.ext rfl (by dsimp only [Term.putChar]; omega) rfl rfl
      (funext fun r => funext fun c => ?_)
    dsimp only [Term.putChar]
    split_ifs <;> first | rfl | omega

/-- The characters `s` from the cursor on, and the cursor past them. -/
theorem Term.foldl_putChar (s : List Char) :
    s.foldl (Term.putChar a) t =
      { t with
        col := t.col + s.length
        cells := fun r c => if r = t.row ∧ t.col ≤ c ∧ c < t.col + s.length then
          (s[(c - t.col).toNat]?).map (fun ch => ⟨ch, t.gfx, a⟩) else t.cells r c } := by
  induction s generalizing t with
  | nil =>
    refine Term.ext rfl (by simp) rfl rfl (funext fun r => funext fun c => ?_)
    dsimp only
    rw [if_neg (by simp only [List.length_nil]; omega)]
    rfl
  | cons ch s ih =>
    rw [List.foldl_cons, ih]
    refine Term.ext rfl (by simp only [Term.putChar_col, List.length_cons]; omega) rfl rfl
      (funext fun r => funext fun c => ?_)
    simp only [Term.putChar_row, Term.putChar_col, Term.putChar_gfx, Term.putChar_cells,
      List.length_cons]
    by_cases hc : r = t.row ∧ c = t.col
    · obtain ⟨rfl, rfl⟩ := hc
      rw [if_neg, if_pos ⟨rfl, rfl⟩, if_pos, Int.sub_self]
      · simp
      all_goals omega
    by_cases hin : r = t.row ∧ t.col + 1 ≤ c ∧ c < t.col + 1 + s.length
    · have e : (c - t.col).toNat = (c - (t.col + 1)).toNat + 1 := by omega
      rw [if_pos hin, if_pos (by omega), e, List.getElem?_cons_succ]
    · rw [if_neg hin, if_neg hc, if_neg (by omega)]

end TermSteps

/-! ### The panel, step by step -/

section PanelSteps

variable (t : Term) (p : Panel) (buf : List Piece)

@[simp] theorem dpWriteRaw_eq : dpWriteRaw buf = dpWriteInternal buf := rfl

@[simp] theorem dpMoveCursor_eq (row col : Int) :
    dpMoveCursor row col = dpWriteInternal [.cursor row col] := rfl

@[simp] theorem dpWriteInternal_color : (dpWriteInternal buf p).color = p.color := rfl

@[simp] theorem dpWriteInternal_rowOff : (dpWriteInternal buf p).rowOff = p.rowOff := rfl

@[simp] theorem dpWriteInternal_rowMax : (dpWriteInternal buf p).rowMax = p.rowMax := rfl

@[simp] theorem run_dpWriteInternal :
    Term.run t (dpWriteInternal buf p).out = (Term.run t p.out).write ⟨buf, p.color⟩ := by
  simp [dpWriteInternal, Term.run]

theorem assertThen_pos {c : Prop} [Decidable c] {f : Panel → Panel} (hc : c) :
    assertThen c f p = some (f p) := if_pos hc

/-- A field every iteration of a loop keeps is kept by the loop. -/
theorem loopFrom_field {β : Type} (f : Panel → β) {body : Int → Panel → Panel}
    (h : ∀ i p, f (body i p) = f p) (i : Int) (n : Nat) (p : Panel) :
    f (loopFrom body i n p) = f p := by
  induction n generalizing i p with
  | zero => rfl
  | succ n ih => rw [loopFrom, ih, h]

/-- A loop of writes of the character `ch` puts it once per iteration, from the cursor on. -/
theorem run_loopFrom_char (ch : Char) (i : Int) (n : Nat) :
    Term.run t (loopFrom (fun _ => dpWriteInternal [.text [ch]]) i n p).out =
      (fun u : Term => u.putChar (p.color.getD (Term.run t p.out).rev) ch)^[n]
        (Term.run t p.out) := by
  induction n generalizing i p with
  | zero => rfl
  | succ n ih =>
    rw [loopFrom, ih, Function.iterate_succ_apply]
    simp [Term.putChar]

/-- The sides loop of `dp_draw_rect_raw`: an `x` at the columns `col` and `col + w - 1` of each
row from `row + i` on, one row per iteration. -/
theorem run_loopFrom_sides (row col w i : Int) (n : Nat) :
    Term.run t (loopFrom (fun i p =>
        dpWriteInternal [.text ['x']] (dpWriteInternal [.cursor (row + i) (col + w - 1)]
          (dpWriteInternal [.text ['x']] (dpWriteInternal [.cursor (row + i) col] p)))) i n p).out =
      { Term.run t p.out with
        row := if n = 0 then (Term.run t p.out).row else row + i + n - 1
        col := if n = 0 then (Term.run t p.out).col else col + w
        cells := fun r c => if row + i ≤ r ∧ r < row + i + n ∧ (c = col ∨ c = col + w - 1) then
          some ⟨'x', (Term.run t p.out).gfx, p.color.getD (Term.run t p.out).rev⟩
          else (Term.run t p.out).cells r c } := by
  induction n generalizing i p with
  | zero =>
    refine Term.ext rfl rfl rfl rfl (funext fun r => funext fun c => ?_)
    dsimp only
    rw [if_neg (by omega)]
    rfl
  | succ n ih =>
    rw [loopFrom, ih]
    refine Term.ext ?_ ?_ (by simp [Term.putChar]) (by simp [Term.putChar])
      (funext fun r => funext fun c => ?_)
    all_goals simp only [run_dpWriteInternal, dpWriteInternal_color, Term.write_char,
      Term.write_cursor, Term.putChar]
    · rw [if_neg n.succ_ne_zero]
      split_ifs <;> omega
    · rw [if_neg n.succ_ne_zero]
      split_ifs <;> omega
    · split_ifs <;> first | rfl | omega

/-- A loop whose iterations keep the color keeps it. -/
@[simp] theorem loopFrom_color {body : Int → Panel → Panel}
    (h : ∀ i p, (body i p).color = p.color) (i : Int) (n : Nat) (p : Panel) :
    (loopFrom body i n p).color = p.color :=
  loopFrom_field _ h i n p

@[simp] theorem loopFrom_rowOff {body : Int → Panel → Panel}
    (h : ∀ i p, (body i p).rowOff = p.rowOff) (i : Int) (n : Nat) (p : Panel) :
    (loopFrom body i n p).rowOff = p.rowOff :=
  loopFrom_field _ h i n p

@[simp] theorem loopFrom_rowMax {body : Int → Panel → Panel}
    (h : ∀ i p, (body i p).rowMax = p.rowMax) (i : Int) (n : Nat) (p : Panel) :
    (loopFrom body i n p).rowMax = p.rowMax :=
  loopFrom_field _ h i n p

end PanelSteps

/-! ### Drawing a frame -/

/-- The terminal `T` with the frame of `h` rows and `w` columns drawn with its top left corner at
`(row, col)`, in the reverse attribute `a`: the cells of the frame hold its characters, in the
line-drawing set, and the others are as they were; the cursor is right of the bottom right corner,
and the line-drawing set is off. -/
def frameTerm (T : Term) (a : Bool) (row col h w : Int) : Term :=
  { T with
    row := row + h - 1
    col := col + w
    gfx := false
    cells := fun r c => match frameChar row col h w r c with
      | some ch => some ⟨ch, true, a⟩
      | none => T.cells r c }

/-- The cells the two frame routines leave, in the order they draw them, from the last drawn
back: they are the frame's.  The top and bottom edges are drawn up to the column `e` before the
corners `k` and `j`: `dp_draw_rect_raw` stops short of the corner's column, `dp_draw_rect` draws a
`q` there that the corner then overwrites. -/
theorem drawn_eq_frameChar {R₀ col h w r c e : Int} (hw : 2 ≤ w) (hh : 2 ≤ h)
    (he : e = col + w - 1 ∨ e = col + w) (a : Bool) (old : Option Cell) :
    (if r = R₀ + h - 1 ∧ c = col + w - 1 then some ⟨'j', true, a⟩
      else if r = R₀ + h - 1 ∧ col < c ∧ c < e then some ⟨'q', true, a⟩
      else if r = R₀ + h - 1 ∧ c = col then some ⟨'m', true, a⟩
      else if R₀ < r ∧ r < R₀ + h - 1 ∧ (c = col ∨ c = col + w - 1) then some ⟨'x', true, a⟩
      else if r = R₀ ∧ c = col + w - 1 then some ⟨'k', true, a⟩
      else if r = R₀ ∧ col < c ∧ c < e then some ⟨'q', true, a⟩
      else if r = R₀ ∧ c = col then some ⟨'l', true, a⟩
      else old) =
      match frameChar R₀ col h w r c with
      | some ch => some ⟨ch, true, a⟩
      | none => old := by
  have hR : R₀ ≠ R₀ + h - 1 := by omega
  have hW : col ≠ col + w - 1 := by omega
  simp only [frameChar]
  -- the top edge, the bottom edge, and the other rows
  by_cases h₁ : r = R₀
  · subst h₁
    by_cases h₂ : c = col
    · subst h₂; simp [hR, hW]
    by_cases h₃ : c = col + w - 1
    · subst h₃; simp [hR, Ne.symm hW]
    simp [hR, h₂, h₃]
    split_ifs <;> first | rfl | omega
  by_cases h₄ : r = R₀ + h - 1
  · subst h₄
    by_cases h₂ : c = col
    · subst h₂; simp [hR, hW, h₁]
    by_cases h₃ : c = col + w - 1
    · subst h₃; simp [hR, Ne.symm hW, h₁]
    simp [hR, h₂, h₃, h₁]
    split_ifs <;> first | rfl | omega
  simp [h₁, h₄]
  split_ifs <;> rfl

section Raw

variable (t : Term) (p : Panel) (row col : Int) {h w : Int}

theorem dpDrawRectRaw_eq (hw : 2 ≤ w) (hh : 2 ≤ h) :
    ∃ p', dpDrawRectRaw row col h w p = some p' ∧ p'.color = p.color ∧ p'.rowOff = p.rowOff ∧
      p'.rowMax = p.rowMax ∧ Term.run t p'.out =
        frameTerm (Term.run t p.out) (p.color.getD (Term.run t p.out).rev) row col h w := by
  refine ⟨_, assertThen_pos _ ⟨hw, hh⟩, ?_, ?_, ?_, ?_⟩
  all_goals simp only [dpWriteRaw_eq, dpMoveCursor_eq, run_dpWriteInternal, run_loopFrom_char,
    run_loopFrom_sides, loopFrom_color, loopFrom_rowOff, loopFrom_rowMax, dpWriteInternal_color,
    dpWriteInternal_rowOff, dpWriteInternal_rowMax, Term.iterate_putChar, Term.write_char,
    Term.write_cursor, Term.write_gfxOn, Term.write_gfxOff, implies_true, Term.putChar_row,
    Term.putChar_col, Term.putChar_gfx, Term.putChar_rev, Term.putChar_cells, frameTerm,
    Term.mk.injEq, true_and]
  refine ⟨by omega, funext fun r => funext fun c => ?_⟩
  simp only [Term.putChar_cells, Int.toNat_of_nonneg (by omega : (0 : Int) ≤ w - 2),
    Int.toNat_of_nonneg (by omega : (0 : Int) ≤ h - 2)]
  have e₁ : col + 1 + (w - 2) = col + w - 1 := by omega
  have e₂ : row + 1 + (h - 2) = row + h - 1 := by omega
  simp only [e₁, e₂, Int.add_one_le_iff]
  exact drawn_eq_frameChar hw hh (.inl rfl) _ _

end Raw

/-! ### `dp_write` -/

section Write

variable (L : Layout) (t : Term) (p : Panel) (buf : List Piece) {row col : Int}

@[simp] theorem Panel.color_rowMax (m : Int) : ({ p with rowMax := m } : Panel).color = p.color :=
  rfl

/-- **What `dp_write` does at a visible row**: `row_max` records the row, and the buffer goes to
the cursor moved to the row scrolled up by `row_off`, at the column `col` unless it is `0`. -/
theorem dpWrite_of_visible (hv₁ : p.rowOff ≤ row - L.screenStartRow)
    (hv₂ : row - p.rowOff ≤ L.endRow - 2) (hc : col ≠ 0) :
    dpWrite L row col buf p = dpWriteInternal buf (dpWriteInternal [.cursor (row - p.rowOff) col]
      { p with rowMax := max p.rowMax (row - L.screenStartRow) }) := by
  have h₁ : ¬ row - L.screenStartRow < p.rowOff := by omega
  have h₂ : ¬ L.endRow - 2 < row - p.rowOff := by omega
  unfold dpWrite
  by_cases hm : row - L.screenStartRow > p.rowMax
  · simp [hm, hc, h₁, h₂, Int.max_eq_right (Int.le_of_lt hm)]
  · simp [hm, hc, h₁, h₂, Int.max_eq_left (Int.not_lt.1 hm)]

@[simp] theorem dpWrite_color : (dpWrite L row col buf p).color = p.color := by
  unfold dpWrite; dsimp only; split_ifs <;> rfl

@[simp] theorem dpWrite_rowOff : (dpWrite L row col buf p).rowOff = p.rowOff := by
  unfold dpWrite; dsimp only; split_ifs <;> rfl

/-- `dp_write` records its row in `row_max` whether it draws or not. -/
@[simp] theorem dpWrite_rowMax :
    (dpWrite L row col buf p).rowMax = max p.rowMax (row - L.screenStartRow) := by
  unfold dpWrite
  dsimp only
  split_ifs <;> simp_all <;> omega

/-- A character written by `dp_write` at a visible row and a column other than `0`. -/
theorem run_dpWrite_char (ch : Char) (hv₁ : p.rowOff ≤ row - L.screenStartRow)
    (hv₂ : row - p.rowOff ≤ L.endRow - 2) (hc : col ≠ 0) :
    Term.run t (dpWrite L row col [.text [ch]] p).out =
      ({ Term.run t p.out with row := row - p.rowOff, col }).putChar
        (p.color.getD (Term.run t p.out).rev) ch := by
  rw [dpWrite_of_visible L p _ hv₁ hv₂ hc]
  simp only [run_dpWriteInternal, dpWriteInternal_color, Panel.color_rowMax, Term.write_cursor,
    Term.write_char]

/-- A loop of `dp_write`s along one row records the row in `row_max` once it has run. -/
theorem loopFrom_dpWrite_rowMax (f : Int → Int) (i : Int) (n : Nat) :
    (loopFrom (fun i => dpWrite L row (f i) buf) i n p).rowMax =
      if n = 0 then p.rowMax else max p.rowMax (row - L.screenStartRow) := by
  induction n generalizing i p with
  | zero => rfl
  | succ n ih =>
    rw [loopFrom, ih, dpWrite_rowMax, if_neg n.succ_ne_zero]
    by_cases hn : n = 0
    · rw [if_pos hn]
    · rw [if_neg hn]
      omega

/-- A loop of `dp_write`s of `ch` along a visible row `row`, at the columns from `col + i + 1`
on. -/
theorem run_loopFrom_dpWrite_row (ch : Char) (hv₁ : p.rowOff ≤ row - L.screenStartRow)
    (hv₂ : row - p.rowOff ≤ L.endRow - 2) (hcol : 0 ≤ col) (i : Int) (hi : 0 ≤ i) (n : Nat) :
    Term.run t (loopFrom (fun i => dpWrite L row (col + i + 1) [.text [ch]]) i n p).out =
      { Term.run t p.out with
        row := if n = 0 then (Term.run t p.out).row else row - p.rowOff
        col := if n = 0 then (Term.run t p.out).col else col + i + n + 1
        cells := fun r c => if r = row - p.rowOff ∧ col + i + 1 ≤ c ∧ c < col + i + 1 + n then
          some ⟨ch, (Term.run t p.out).gfx, p.color.getD (Term.run t p.out).rev⟩
          else (Term.run t p.out).cells r c } := by
  induction n generalizing i p with
  | zero =>
    refine Term.ext rfl rfl rfl rfl (funext fun r => funext fun c => ?_)
    dsimp only
    rw [if_neg (by omega)]
    rfl
  | succ n ih =>
    rw [loopFrom, ih _ (by simpa using hv₁) (by simpa using hv₂) (i + 1) (by omega),
      run_dpWrite_char L t p ch hv₁ hv₂ (by omega)]
    refine Term.ext ?_ ?_ rfl rfl (funext fun r => funext fun c => ?_)
    all_goals simp only [dpWrite_color, dpWrite_rowOff, Term.putChar_row, Term.putChar_col,
      Term.putChar_gfx, Term.putChar_rev, Term.putChar_cells]
    · rw [if_neg n.succ_ne_zero]
      split_ifs <;> rfl
    · rw [if_neg n.succ_ne_zero]
      split_ifs <;> omega
    · split_ifs <;> first | rfl | omega

/-- The sides loop of `dp_draw_rect` records its last row in `row_max` once it has run. -/
theorem loopFrom_dpWrite_sides_rowMax (w i : Int) (n : Nat) :
    (loopFrom (fun i p => dpWrite L (row + i) (col + w - 1) [.text ['x']]
      (dpWrite L (row + i) col [.text ['x']] p)) i n p).rowMax =
      if n = 0 then p.rowMax else max p.rowMax (row + i + n - 1 - L.screenStartRow) := by
  induction n generalizing i p with
  | zero => rfl
  | succ n ih =>
    rw [loopFrom, ih, dpWrite_rowMax, dpWrite_rowMax, if_neg n.succ_ne_zero]
    by_cases hn : n = 0
    · rw [if_pos hn, hn]
      omega
    · rw [if_neg hn]
      omega

/-- The sides loop of `dp_draw_rect` over visible rows: an `x` at the columns `col` and
`col + w - 1` of each row from `row + i` on, scrolled up by `row_off`. -/
theorem run_loopFrom_dpWrite_sides {w : Int} (hc₁ : col ≠ 0) (hc₂ : col + w - 1 ≠ 0) (i : Int)
    (n : Nat) (hv₁ : p.rowOff ≤ row + i - L.screenStartRow)
    (hv₂ : row + i + n - 1 - p.rowOff ≤ L.endRow - 2) :
    Term.run t (loopFrom (fun i p => dpWrite L (row + i) (col + w - 1) [.text ['x']]
      (dpWrite L (row + i) col [.text ['x']] p)) i n p).out =
      { Term.run t p.out with
        row := if n = 0 then (Term.run t p.out).row else row + i + n - 1 - p.rowOff
        col := if n = 0 then (Term.run t p.out).col else col + w
        cells := fun r c =>
          if row + i - p.rowOff ≤ r ∧ r < row + i + n - p.rowOff ∧ (c = col ∨ c = col + w - 1) then
            some ⟨'x', (Term.run t p.out).gfx, p.color.getD (Term.run t p.out).rev⟩
          else (Term.run t p.out).cells r c } := by
  induction n generalizing i p with
  | zero =>
    refine Term.ext rfl rfl rfl rfl (funext fun r => funext fun c => ?_)
    dsimp only
    rw [if_neg (by omega)]
    rfl
  | succ n ih =>
    rw [loopFrom, ih _ (i + 1) (by simp; omega) (by simp; omega),
      run_dpWrite_char L t _ _ (by simp; omega) (by simp; omega) hc₂,
      run_dpWrite_char L t _ _ (by omega) (by omega) hc₁]
    refine Term.ext ?_ ?_ (by simp) (by simp) (funext fun r => funext fun c => ?_)
    all_goals simp only [dpWrite_color, dpWrite_rowOff, Term.putChar_row, Term.putChar_col,
      Term.putChar_gfx, Term.putChar_rev, Term.putChar_cells]
    · rw [if_neg n.succ_ne_zero]
      split_ifs <;> omega
    · rw [if_neg n.succ_ne_zero]
      split_ifs <;> omega
    · split_ifs <;> first | rfl | omega

end Write

/-- Recording a row no lower than one already recorded. -/
theorem max_max_of_le {x a b : Int} (h : a ≤ b) : max (max x a) b = max x b := by omega

section Draw

variable (L : Layout) (t : Term) (p : Panel) {row col h w : Int}

theorem dpDrawRect_eq (hw : 2 ≤ w) (hh : 2 ≤ h) (hc : 0 < col)
    (hv₁ : p.rowOff ≤ row - L.screenStartRow) (hv₂ : row + h - 1 - p.rowOff ≤ L.endRow - 2) :
    ∃ p', dpDrawRect L none row col h w p = some p' ∧ p'.color = p.color ∧
      p'.rowOff = p.rowOff ∧ p'.rowMax = max p.rowMax (row + h - 1 - L.screenStartRow) ∧
      Term.run t p'.out = frameTerm (Term.run t p.out) (p.color.getD (Term.run t p.out).rev)
        (row - p.rowOff) col h w := by
  refine ⟨_, assertThen_pos _ ⟨hw, hh⟩, ?_, ?_, ?_, ?_⟩
  · simp
  · simp
  · simp (disch := omega) only [dpWriteRaw_eq, dpWriteInternal_rowMax, dpWrite_rowMax,
      loopFrom_dpWrite_rowMax, loopFrom_dpWrite_sides_rowMax, max_max_of_le,
      if_neg (show (w - 1).toNat ≠ 0 by omega)]
    split_ifs <;> omega
  · dsimp only
    -- from the last write back to the first
    rw [dpWriteRaw_eq, run_dpWriteInternal,
      run_dpWrite_char L t _ _ (by simp; omega) (by simp; omega) (by omega),
      run_loopFrom_dpWrite_row L t _ _ (by simp; omega) (by simp; omega) (by omega) 0 (Int.le_refl 0),
      run_dpWrite_char L t _ _ (by simp; omega) (by simp; omega) (by omega),
      run_loopFrom_dpWrite_sides L t _ (by omega) (by omega) 1 _ (by simp; omega) (by simp; omega),
      run_dpWrite_char L t _ _ (by simp; omega) (by simp; omega) (by omega),
      run_loopFrom_dpWrite_row L t _ _ (by simp; omega) (by simp; omega) (by omega) 0 (Int.le_refl 0),
      run_dpWrite_char L t _ _ (by simp; omega) (by simp; omega) (by omega), dpWriteRaw_eq,
      run_dpWriteInternal]
    simp only [dpWrite_color, dpWrite_rowOff, loopFrom_color, loopFrom_rowOff,
      dpWriteInternal_color, dpWriteInternal_rowOff, Term.write_gfxOn, Term.write_gfxOff,
      Term.putChar_row, Term.putChar_col, Term.putChar_gfx, Term.putChar_rev, Term.putChar_cells,
      frameTerm, Term.mk.injEq, true_and, implies_true]
    refine ⟨by omega, by omega, funext fun r => funext fun c => ?_⟩
    have e₁ : col + w - 2 + 1 = col + w - 1 := by omega
    have e₃ : row + h - 1 - p.rowOff = row - p.rowOff + h - 1 := by omega
    have e₄ : row + 1 - p.rowOff = row - p.rowOff + 1 := by omega
    have e₅ : row + 1 + ((h - 2).toNat : Int) - p.rowOff = row - p.rowOff + h - 1 := by omega
    simp only [Term.putChar_cells, e₁, e₃, e₄, e₅, Int.add_zero, Int.add_one_le_iff]
    exact drawn_eq_frameChar hw hh (.inr (by omega)) _ _

/-- **`dp_draw_rect` draws the frame `dp_draw_rect_raw` draws**, where the whole frame is
visible: both leave the terminal with exactly the frame drawn, at the row scrolled up by
`row_off`, and every other cell as it was.  `dp_draw_rect` goes through `dp_write` one character at
a time and draws one `q` too many on each edge, which the corner then overwrites; only it records
the frame's last row in `row_max`. -/
theorem dpDrawRect_refines_raw (hw : 2 ≤ w) (hh : 2 ≤ h) (hc : 0 < col)
    (hv₁ : p.rowOff ≤ row - L.screenStartRow) (hv₂ : row + h - 1 - p.rowOff ≤ L.endRow - 2) :
    ∃ p₁ p₂, dpDrawRect L none row col h w p = some p₁ ∧
      dpDrawRectRaw (row - p.rowOff) col h w p = some p₂ ∧
      Term.run t p₁.out = frameTerm (Term.run t p.out) (p.color.getD (Term.run t p.out).rev)
        (row - p.rowOff) col h w ∧
      Term.run t p₂.out = Term.run t p₁.out ∧
      p₁.rowMax = max p.rowMax (row + h - 1 - L.screenStartRow) ∧ p₂.rowMax = p.rowMax := by
  obtain ⟨p₁, h₁, -, -, hm₁, ht₁⟩ := dpDrawRect_eq L t p hw hh hc hv₁ hv₂
  obtain ⟨p₂, h₂, -, -, hm₂, ht₂⟩ := dpDrawRectRaw_eq t p (row - p.rowOff) col hw hh
  exact ⟨p₁, p₂, h₁, h₂, ht₁, ht₂.trans ht₁.symm, hm₁, hm₂⟩

/-- With a label, `dp_draw_rect` draws the frame as without one, then the label. -/
theorem dpDrawRect_some (label : List Char) (row col h w : Int) :
    dpDrawRect L (some label) row col h w p =
      (dpDrawRect L none row col h w p).map (dpWrite L row (col + 2) (labelBuf label)) := by
  unfold dpDrawRect assertThen
  split_ifs <;> rfl

/-- A label that fits, written by `dp_write` at a visible row and a column other than `0`: its
text from the column on, in the panel's color, after which `RESET_ATTRS` clears the reverse
attribute. -/
theorem run_dpWrite_label (label : List Char)
    (hfit : colorGreenBytes + (labelText label).length + resetAttrsBytes ≤ 255) {row col : Int}
    (hv₁ : p.rowOff ≤ row - L.screenStartRow) (hv₂ : row - p.rowOff ≤ L.endRow - 2)
    (hc : col ≠ 0) :
    Term.run t (dpWrite L row col (labelBuf label) p).out =
      { (labelText label).foldl (Term.putChar (p.color.getD (Term.run t p.out).rev))
          { Term.run t p.out with row := row - p.rowOff, col } with rev := false } := by
  rw [dpWrite_of_visible L p _ hv₁ hv₂ hc, labelBuf, if_pos hfit]
  simp only [run_dpWriteInternal, dpWriteInternal_color, Panel.color_rowMax, Term.write_cursor]
  rfl

/-- **What `dp_draw_rect` draws with a label**, where the whole frame is visible and
`ESC_COLOR_GREEN "[ label ]" RESET_ATTRS` fits the 255 bytes `vsnprintk` writes: the frame, with
the text `[ label ]` over its top edge from the column `col + 2` on, in the normal character set
and the attribute the frame was drawn in, the cursor after it and the reverse attribute cleared.
The label is not clipped to the frame: one of `w - 6` characters or more runs over the top right
corner. -/
theorem dpDrawRect_label_eq (label : List Char)
    (hfit : colorGreenBytes + (labelText label).length + resetAttrsBytes ≤ 255) (hw : 2 ≤ w)
    (hh : 2 ≤ h) (hc : 0 < col)
    (hv₁ : p.rowOff ≤ row - L.screenStartRow) (hv₂ : row + h - 1 - p.rowOff ≤ L.endRow - 2) :
    ∃ p', dpDrawRect L (some label) row col h w p = some p' ∧
      Term.run t p'.out =
        { frameTerm (Term.run t p.out) (p.color.getD (Term.run t p.out).rev) (row - p.rowOff)
            col h w with
          row := row - p.rowOff
          col := col + 2 + (labelText label).length
          rev := false
          cells := fun r c =>
            if r = row - p.rowOff ∧ col + 2 ≤ c ∧ c < col + 2 + (labelText label).length then
              ((labelText label)[(c - (col + 2)).toNat]?).map
                (fun ch => ⟨ch, false, p.color.getD (Term.run t p.out).rev⟩)
            else (frameTerm (Term.run t p.out) (p.color.getD (Term.run t p.out).rev)
              (row - p.rowOff) col h w).cells r c } := by
  obtain ⟨p₁, h₁, hc₁, ho₁, -, ht₁⟩ := dpDrawRect_eq L t p hw hh hc hv₁ hv₂
  refine ⟨_, by rw [dpDrawRect_some, h₁]; rfl, ?_⟩
  rw [run_dpWrite_label L t p₁ label hfit (by rw [ho₁]; omega) (by rw [ho₁]; omega) (by omega), ht₁,
    hc₁, ho₁, Term.foldl_putChar]
  rfl

/-- A panel scrolled down by two rows on a serial terminal, with the layout of a panel whose
scrollable area starts at row 1 and ends at row 24. -/
def scrolledPanel : Panel := ⟨false, false, 2, 0, []⟩

def panelLayout : Layout := ⟨1, 24, 0⟩

/-- A blank terminal. -/
def blankTerm : Term := ⟨1, 1, false, false, fun _ _ => none⟩

theorem dpDrawRect_refines_raw_scrolled :
    ((2 : Int) ≤ 6 ∧ (2 : Int) ≤ 4 ∧ (0 : Int) < 3 ∧
      scrolledPanel.rowOff ≤ 5 - panelLayout.screenStartRow ∧
      5 + 4 - 1 - scrolledPanel.rowOff ≤ panelLayout.endRow - 2) ∧
    ∃ p₁ p₂, dpDrawRect panelLayout none 5 3 4 6 scrolledPanel = some p₁ ∧
      dpDrawRectRaw (5 - scrolledPanel.rowOff) 3 4 6 scrolledPanel = some p₂ ∧
      Term.run blankTerm p₁.out = frameTerm (Term.run blankTerm scrolledPanel.out)
        (scrolledPanel.color.getD (Term.run blankTerm scrolledPanel.out).rev)
        (5 - scrolledPanel.rowOff) 3 4 6 ∧
      Term.run blankTerm p₂.out = Term.run blankTerm p₁.out ∧
      p₁.rowMax = max scrolledPanel.rowMax (5 + 4 - 1 - panelLayout.screenStartRow) ∧
      p₂.rowMax = scrolledPanel.rowMax :=
  ⟨⟨by decide, by decide, by decide, by decide, by decide⟩,
    dpDrawRect_refines_raw panelLayout blankTerm scrolledPanel (by decide) (by decide) (by decide)
      (by decide) (by decide)⟩

/-- A label of two characters on a frame six columns wide runs over its top right corner. -/
theorem dpDrawRect_label_eq_over_corner :
    (colorGreenBytes + (labelText ['a', 'b']).length + resetAttrsBytes ≤ 255 ∧
      (2 : Int) ≤ 6 ∧ (2 : Int) ≤ 4 ∧ (0 : Int) < 3 ∧
      scrolledPanel.rowOff ≤ 5 - panelLayout.screenStartRow ∧
      5 + 4 - 1 - scrolledPanel.rowOff ≤ panelLayout.endRow - 2) ∧
    ∃ p', dpDrawRect panelLayout (some ['a', 'b']) 5 3 4 6 scrolledPanel = some p' ∧
      (Term.run blankTerm p'.out).cells 3 8 = some ⟨'b', false, false⟩ := by
  refine ⟨⟨by decide, by decide, by decide, by decide, by decide, by decide⟩, ?_⟩
  obtain ⟨p', hp', ht⟩ : ∃ p', dpDrawRect panelLayout (some ['a', 'b']) 5 3 4 6 scrolledPanel =
      some p' ∧ _ := dpDrawRect_label_eq panelLayout blankTerm scrolledPanel ['a', 'b']
    (by decide) (by decide) (by decide) (by decide) (by decide) (by decide)
  exact ⟨p', hp', by rw [ht]; decide⟩

end Draw

/-! ### Clipping to the scrollable area -/

/-- Whether a piece keeps the cursor on its row and leaves the other rows alone: all but a cursor
move, `ERASE_DISPLAY`, and the switches to the other screen buffer, which `Tilck.DebugPanel.Term`
does not model. -/
def Piece.staysInRow : Piece → Bool
  | .cursor _ _ | .code .eraseDisplay | .code .useAltBuf | .code .useDefBuf => false
  | _ => true

/-- `t'` is `t` with at most the cells of the cursor's row changed, and the cursor still on it. -/
def Term.OnRow (t t' : Term) : Prop :=
  t'.row = t.row ∧ ∀ r c, r ≠ t.row → t'.cells r c = t.cells r c

theorem Term.OnRow.trans {t₁ t₂ t₃ : Term} (h₁ : t₁.OnRow t₂) (h₂ : t₂.OnRow t₃) : t₁.OnRow t₃ :=
  ⟨h₂.1.trans h₁.1, fun r c hr => (h₂.2 r c (h₁.1 ▸ hr)).trans (h₁.2 r c hr)⟩

theorem Term.onRow_foldl {α : Type} (f : Term → α → Term) (l : List α)
    (h : ∀ x ∈ l, ∀ t : Term, t.OnRow (f t x)) (t : Term) : t.OnRow (l.foldl f t) := by
  induction l generalizing t with
  | nil => exact ⟨rfl, fun _ _ _ => rfl⟩
  | cons x l ih => exact (h x (.head _) t).trans (ih (fun y hy => h y (.tail _ hy)) _)

theorem Term.onRow_piece {x : Piece} (hx : x.staysInRow = true) (color : Option Bool) (t : Term) :
    t.OnRow (t.piece color x) := by
  cases x with
  | code k => cases k <;> first | exact ⟨rfl, fun _ _ _ => rfl⟩ | cases hx
  | cursor => cases hx
  | text s =>
    exact Term.onRow_foldl (Term.putChar (color.getD t.rev)) s
      (fun _ _ u => ⟨rfl, fun r c hr => if_neg fun h => hr h.1⟩) t
  | right | left | toCol => exact ⟨rfl, fun _ _ _ => rfl⟩

theorem Term.onRow_write {w : Write} (hw : ∀ x ∈ w.buf, x.staysInRow = true) (t : Term) :
    t.OnRow (t.write w) :=
  Term.onRow_foldl _ _ (fun x hx u => Term.onRow_piece (hw x hx) _ u) t

theorem labelBuf_staysInRow (label : List Char) : ∀ x ∈ labelBuf label, x.staysInRow = true := by
  unfold labelBuf
  split_ifs <;> simp [Piece.staysInRow]

section Clip

variable (L : Layout) (t : Term) (p : Panel) (row col : Int) (buf : List Piece)

/-- `dp_write` either only records its row in `row_max`, or, at a row of the scrollable area,
writes the buffer after moving the cursor to that row. -/
theorem dpWrite_cases :
    dpWrite L row col buf p = { p with rowMax := max p.rowMax (row - L.screenStartRow) } ∨
      p.rowOff ≤ row - L.screenStartRow ∧ row - p.rowOff ≤ L.endRow - 2 ∧
        dpWrite L row col buf p = dpWriteInternal buf (dpWriteInternal
          [.cursor (row - p.rowOff) (if col = 0 then L.startCol + 2 else col)]
          { p with rowMax := max p.rowMax (row - L.screenStartRow) }) := by
  have hm : (if row - L.screenStartRow > p.rowMax then { p with rowMax := row - L.screenStartRow }
      else p) = { p with rowMax := max p.rowMax (row - L.screenStartRow) } := by
    by_cases h : row - L.screenStartRow > p.rowMax
    · rw [if_pos h, Int.max_eq_right (Int.le_of_lt h)]
    · rw [if_neg h, Int.max_eq_left (Int.not_lt.1 h)]
  unfold dpWrite
  dsimp only
  rw [hm]
  by_cases h₁ : row - L.screenStartRow < p.rowOff
  · exact .inl (if_pos h₁)
  by_cases h₂ : row - p.rowOff > L.endRow - 2
  · exact .inl ((if_neg h₁).trans (if_pos h₂))
  · exact .inr ⟨by omega, by omega, (if_neg h₁).trans (if_neg h₂)⟩

/-- `dp_write` of a buffer that stays on its row changes no cell of another row than the one it
writes to, nor of a row outside the scrollable area. -/
theorem dpWrite_cells (hbuf : ∀ x ∈ buf, x.staysInRow = true) {r : Int} (c : Int)
    (hr : r ≠ row - p.rowOff ∨ r < L.screenStartRow ∨ L.endRow - 2 < r) :
    (Term.run t (dpWrite L row col buf p).out).cells r c = (Term.run t p.out).cells r c := by
  rcases dpWrite_cases L p row col buf with h | ⟨hv₁, hv₂, h⟩
  · rw [h]
  · rw [h, run_dpWriteInternal, run_dpWriteInternal]
    exact (Term.onRow_write hbuf _).2 r c (by simp only [Term.write_cursor]; omega)

/-- **`dp_write` clips**: a buffer that stays on its row changes at most the cells of the row it
is written to, scrolled up by `row_off`, and only when that row lies in the scrollable area
`[dp_screen_start_row, dp_end_row - 2]`.  This is on `Tilck.DebugPanel.Term`, which has no line
width and no wrap, and prints a control character as a cell like any other: a text that a real
terminal wraps onto the next row, or a control character that moves its cursor, is not covered. -/
theorem dpWrite_rows (hbuf : ∀ x ∈ buf, x.staysInRow = true) {r c : Int}
    (hrc : (Term.run t (dpWrite L row col buf p).out).cells r c ≠ (Term.run t p.out).cells r c) :
    r = row - p.rowOff ∧ L.screenStartRow ≤ r ∧ r ≤ L.endRow - 2 := by
  by_contra hn
  exact hrc (dpWrite_cells L t p row col buf hbuf c (by omega))

theorem dpWrite_rows_scrolled :
    (∀ x ∈ [Piece.text ['a']], x.staysInRow = true) ∧
      (Term.run blankTerm (dpWrite panelLayout 5 3 [.text ['a']] scrolledPanel).out).cells 3 3 ≠
        (Term.run blankTerm scrolledPanel.out).cells 3 3 ∧
      3 = 5 - scrolledPanel.rowOff ∧ panelLayout.screenStartRow ≤ 3 ∧ 3 ≤ panelLayout.endRow - 2 :=
  have hbuf : ∀ x ∈ [Piece.text ['a']], x.staysInRow = true := by decide
  have hrc : (Term.run blankTerm (dpWrite panelLayout 5 3 [.text ['a']] scrolledPanel).out).cells
      3 3 ≠ (Term.run blankTerm scrolledPanel.out).cells 3 3 := by decide
  ⟨hbuf, hrc, dpWrite_rows panelLayout blankTerm scrolledPanel 5 3 _ hbuf hrc⟩

/-- The writes of `p'` leave every cell of a row outside `[lo, hi]` as those of `p` leave it, on
every terminal. -/
def SameOutside (lo hi : Int) (p p' : Panel) : Prop :=
  ∀ t r c, (r < lo ∨ hi < r) → (Term.run t p'.out).cells r c = (Term.run t p.out).cells r c

theorem SameOutside.trans {lo hi : Int} {p₁ p₂ p₃ : Panel} (h₁ : SameOutside lo hi p₁ p₂)
    (h₂ : SameOutside lo hi p₂ p₃) : SameOutside lo hi p₁ p₃ :=
  fun t r c hr => (h₂ t r c hr).trans (h₁ t r c hr)

theorem sameOutside_dpWrite (hbuf : ∀ x ∈ buf, x.staysInRow = true) :
    SameOutside L.screenStartRow (L.endRow - 2) p (dpWrite L row col buf p) :=
  fun t _ c hr => dpWrite_cells L t p row col buf hbuf c (.inr hr)

/-- A code other than `ERASE_DISPLAY` changes no cell. -/
theorem sameOutside_code {lo hi : Int} {k : Code} (hk : k ≠ .eraseDisplay) :
    SameOutside lo hi p (dpWriteInternal [.code k] p) := by
  intro t r c _
  rw [run_dpWriteInternal]
  cases k <;> first | rfl | exact absurd rfl hk

theorem sameOutside_loopFrom {lo hi : Int} {body : Int → Panel → Panel}
    (h : ∀ i p, SameOutside lo hi p (body i p)) (i : Int) (n : Nat) :
    SameOutside lo hi p (loopFrom body i n p) := by
  induction n generalizing i p with
  | zero => exact fun _ _ _ _ => rfl
  | succ n ih => exact (h i p).trans (ih _ _)

end Clip

section ClipRect

variable (L : Layout) (t : Term) (p : Panel)

/-- **`dp_draw_rect` draws inside the scrollable area**: whatever its arguments, and however much of
the frame is scrolled out, it changes no cell of a row outside
`[dp_screen_start_row, dp_end_row - 2]`.  As for `Tilck.DebugPanel.dpWrite_rows`, this is on a
terminal with no line width and no wrap, where a control character of the label prints as a
cell. -/
theorem dpDrawRect_rows (label : Option (List Char)) (row col h w : Int) {p' : Panel}
    (hp : dpDrawRect L label row col h w p = some p') {r : Int}
    (hr : r < L.screenStartRow ∨ L.endRow - 2 < r) (c : Int) :
    (Term.run t p'.out).cells r c = (Term.run t p.out).cells r c := by
  simp only [dpDrawRect, assertThen, dpWriteRaw_eq] at hp
  split_ifs at hp
  cases hp
  refine (?_ : SameOutside L.screenStartRow (L.endRow - 2) p _) t r c hr
  have hx : ∀ x ∈ [Piece.text ['x']], x.staysInRow = true := by decide
  refine match label with
    | none => ?_
    | some label => .trans ?_ (sameOutside_dpWrite L _ _ _ _ (labelBuf_staysInRow label))
  -- from the last write back to the first
  all_goals
    refine .trans ?_ (sameOutside_code _ (by decide))
    refine .trans ?_ (sameOutside_dpWrite L _ _ _ _ (by decide))
    refine .trans ?_
      (sameOutside_loopFrom _ (fun _ _ => sameOutside_dpWrite L _ _ _ _ (by decide)) _ _)
    refine .trans ?_ (sameOutside_dpWrite L _ _ _ _ (by decide))
    refine .trans ?_ (sameOutside_loopFrom _ (fun _ _ =>
      (sameOutside_dpWrite L _ _ _ _ hx).trans (sameOutside_dpWrite L _ _ _ _ hx)) _ _)
    refine .trans ?_ (sameOutside_dpWrite L _ _ _ _ (by decide))
    refine .trans ?_
      (sameOutside_loopFrom _ (fun _ _ => sameOutside_dpWrite L _ _ _ _ (by decide)) _ _)
    refine .trans ?_ (sameOutside_dpWrite L _ _ _ _ (by decide))
    exact sameOutside_code _ (by decide)

/-- The top edge and the label of this frame fall in the rows scrolled out, above row 1. -/
theorem dpDrawRect_rows_scrolled :
    ∃ p', dpDrawRect panelLayout (some ['o', 'k']) 2 3 4 6 scrolledPanel = some p' ∧
      (0 < panelLayout.screenStartRow ∨ panelLayout.endRow - 2 < 0) ∧
      (Term.run blankTerm p'.out).cells 0 3 = (Term.run blankTerm scrolledPanel.out).cells 0 3 :=
  have hp : dpDrawRect panelLayout (some ['o', 'k']) 2 3 4 6 scrolledPanel = some _ :=
    assertThen_pos _ (by decide)
  ⟨_, hp, .inl (by decide),
    dpDrawRect_rows panelLayout blankTerm scrolledPanel _ 2 3 4 6 hp (.inl (by decide)) 3⟩

end ClipRect

end DebugPanel

end Tilck
