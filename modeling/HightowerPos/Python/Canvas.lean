import Mathlib.Algebra.Order.Ring.Rat
import Mathlib.Data.List.Pairwise
import Mathlib.Tactic.Linarith

/-!
# Drawings

A `Canvas` of reportlab takes marks at absolute heights, and what lies beyond the page is lost
without a word.  A program that goes down the page step by step is followed by `Draws`: it says
which rows of text are on the page, each below the one before, and how far the program goes down,
so that programs can be put together without a look at the heights.
-/

namespace HightowerPos.Canvas

/-! ## Programs that draw -/

/-- What a canvas is told to do. -/
inductive Mark
  | setFont (font : String) (size : ℕ)
  | setStrokeColorRGB (r g b : ℚ)
  | setFillColorRGB (r g b : ℚ)
  | setLineWidth (width : ℚ)
  | line (x₁ y₁ x₂ y₂ : ℚ)
  | drawString (x y : ℚ) (s : String)
  | drawRightString (x y : ℚ) (s : String)
deriving DecidableEq

namespace Mark

/-- The text of a mark, with its height. -/
def text : Mark → Option (ℚ × String)
  | drawString _ y s => some (y, s)
  | drawRightString _ y s => some (y, s)
  | _ => none

/-- The heights of a mark. -/
def heights : Mark → List ℚ
  | line _ y₁ _ y₂ => [y₁, y₂]
  | drawString _ y _ => [y]
  | drawRightString _ y _ => [y]
  | _ => []

end Mark

/-- The marks on a page, and the height that the program has come to. -/
structure Page where
  marks : List Mark := []
  y : ℚ
deriving DecidableEq

/-- A program that draws. -/
abbrev Drawing (ε α : Type) := StateT Page (Except ε) α

section Programs

variable {ε α β : Type}

def draw (ms : List Mark) : Drawing ε Unit := fun p ↦ .ok ((), { p with marks := p.marks ++ ms })

/-- `y -= d`. -/
def down (d : ℚ) : Drawing ε Unit := fun p ↦ .ok ((), { p with y := p.y - d })

/-- The height. -/
def height : Drawing ε ℚ := fun p ↦ .ok (p.y, p)

/-- Go on with a value, or raise. -/
def ofResult (r : Except ε α) : Drawing ε α := fun p ↦ r.map (·, p)

/-- A text in a font, which is set first. -/
def text (x : ℚ) (s font : String) (size : ℕ) : Drawing ε Unit := fun p ↦
  draw [.setFont font size, .drawString x p.y s] p

/-- A text that ends at `x`. -/
def textRight (x : ℚ) (s font : String) (size : ℕ) : Drawing ε Unit := fun p ↦
  draw [.setFont font size, .drawRightString x p.y s] p

/-- A level line, some way below the height. -/
def rule (below x₁ x₂ : ℚ) : Drawing ε Unit := fun p ↦
  draw [.line x₁ (p.y - below) x₂ (p.y - below)] p

end Programs

/-! ## Rows -/

/-- Rows of text with their heights, from `top` down to `bottom`: the words that stand there
already, and the texts of the marks.  Rows keep a distance of `gap`, and every mark is between the
two heights. -/
structure Lays (gap top : ℚ) (before : List String) (ms : List Mark)
    (rows : List (ℚ × List String)) (bottom : ℚ) : Prop where
  le : bottom ≤ top
  texts : before.map (top, ·) ++ ms.filterMap Mark.text = rows.flatMap fun r ↦ r.2.map (r.1, ·)
  apart : rows.Pairwise fun r r' ↦ r'.1 + gap ≤ r.1
  between : ∀ r ∈ rows, bottom + gap ≤ r.1 ∧ r.1 ≤ top
  within : ∀ m ∈ ms, ∀ y ∈ m.heights, bottom ≤ y ∧ y ≤ top

/-- From any page on the program succeeds, sets these rows below each other and goes down by `d`;
`before` are the words that its first row has already. -/
def Draws {ε α : Type} (gap : ℚ) (before : List String) (f : Drawing ε α)
    (words : List (List String)) (d : ℚ) (a : α) : Prop :=
  ∀ p : Page, ∃ ms rows, f p = .ok (a, ⟨p.marks ++ ms, p.y - d⟩) ∧
    Lays gap p.y before ms rows (p.y - d) ∧ rows.map (·.2) = words

/-- The same of the end of a page: the program may stop above the height down to which its rows
keep their distance. -/
def Finishes {ε α : Type} (gap : ℚ) (before : List String) (f : Drawing ε α)
    (words : List (List String)) (d : ℚ) (a : α) : Prop :=
  ∀ p : Page, ∃ ms rows y, f p = .ok (a, ⟨p.marks ++ ms, y⟩) ∧ p.y - d ≤ y ∧
    Lays gap p.y before ms rows (p.y - d) ∧ rows.map (·.2) = words

section Rules

variable {ε α β : Type} {gap top middle bottom d d' : ℚ} {before : List String} {ms ms' : List Mark}
  {rows rows' : List (ℚ × List String)} {words words' : List (List String)} {a : α} {b : β}
  {f : Drawing ε α} {k : α → Drawing ε β}

theorem Lays.append (h : Lays gap top before ms rows middle)
    (h' : Lays gap middle [] ms' rows' bottom) :
    Lays gap top before (ms ++ ms') (rows ++ rows') bottom where
  le := h'.le.trans h.le
  texts := by
    rw [List.filterMap_append, ← List.append_assoc, h.texts, List.flatMap_append, ← h'.texts]
    rfl
  apart := by
    apply List.pairwise_append.mpr
    refine ⟨h.apart, h'.apart, ?_⟩
    intro r hr r' hr'
    have hle := (h'.between r' hr').2
    have hge := (h.between r hr).1
    linarith
  between r hr := by
    have hle := h.le
    have hle' := h'.le
    rcases List.mem_append.mp hr with hr | hr
    · obtain ⟨hlow, hhigh⟩ := h.between r hr
      exact ⟨by linarith, hhigh⟩
    · obtain ⟨hlow, hhigh⟩ := h'.between r hr
      exact ⟨hlow, hhigh.trans hle⟩
  within m hm y hy := by
    rcases List.mem_append.mp hm with hm | hm
    · obtain ⟨hlow, hhigh⟩ := h.within m hm y hy
      exact ⟨h'.le.trans hlow, hhigh⟩
    · obtain ⟨hlow, hhigh⟩ := h'.within m hm y hy
      exact ⟨hlow, hhigh.trans h.le⟩

/-- There may be more room below. -/
theorem Lays.lower (h : Lays gap top before ms rows middle) (hle : bottom ≤ middle) :
    Lays gap top before ms rows bottom where
  le := hle.trans h.le
  texts := h.texts
  apart := h.apart
  between r hr := by
    obtain ⟨hlow, hhigh⟩ := h.between r hr
    exact ⟨by linarith, hhigh⟩
  within m hm y hy := by
    obtain ⟨hlow, hhigh⟩ := h.within m hm y hy
    exact ⟨hle.trans hlow, hhigh⟩

theorem draws_pure (a : α) : Draws gap [] (pure a : Drawing ε α) [] 0 a := by
  intro p
  refine ⟨[], [], ?_, ⟨?_, rfl, List.Pairwise.nil, ?_, ?_⟩, rfl⟩
  · rw [List.append_nil, sub_zero]
    rfl
  · rw [sub_zero]
  · intro r hr
    exact absurd hr List.not_mem_nil
  · intro m hm
    exact absurd hm List.not_mem_nil

/-- One program after the other. -/
theorem Draws.bind (h : Draws gap before f words d a) (h' : Draws gap [] (k a) words' d' b) :
    Draws gap before (f >>= k) (words ++ words') (d + d') b := by
  intro p
  obtain ⟨ms, rows, hf, hlays, rfl⟩ := h p
  obtain ⟨ms', rows', hk, hlays', rfl⟩ := h' ⟨p.marks ++ ms, p.y - d⟩
  refine ⟨ms ++ ms', rows ++ rows', ?_, ?_, List.map_append⟩
  · rw [← List.append_assoc, ← sub_sub, ← hk]
    change (f p >>= fun r ↦ k r.1 r.2) = _
    rw [hf]
    rfl
  · rw [← sub_sub]
    exact hlays.append hlays'

/-- The end of a page after a program. -/
theorem Draws.finish (h : Draws gap before f words d a)
    (h' : Finishes gap [] (k a) words' d' b) :
    Finishes gap before (f >>= k) (words ++ words') (d + d') b := by
  intro p
  obtain ⟨ms, rows, hf, hlays, rfl⟩ := h p
  obtain ⟨ms', rows', y, hk, hy, hlays', rfl⟩ := h' ⟨p.marks ++ ms, p.y - d⟩
  refine ⟨ms ++ ms', rows ++ rows', y, ?_, ?_, ?_, List.map_append⟩
  · rw [← List.append_assoc, ← hk]
    change (f p >>= fun r ↦ k r.1 r.2) = _
    rw [hf]
    rfl
  · rwa [← sub_sub]
  · rw [← sub_sub]
    exact hlays.append hlays'

theorem Finishes.congr {e : ℚ} (h : Finishes gap before f words d a) (hwords : words = words')
    (he : d = e) : Finishes gap before f words' e a := hwords ▸ he ▸ h

/-- A value that is at hand. -/
theorem draws_ofResult {r : Except ε α} (hr : r = .ok a) (h : Draws gap before (k a) words d b) :
    Draws gap before (ofResult r >>= k) words d b := by
  subst hr
  exact h

/-- Marks without a text. -/
theorem draws_silent {w : ℚ → List Mark} {k : Unit → Drawing ε β}
    (hsilent : ∀ y, (w y).filterMap Mark.text = [])
    (hwithin : ∀ y, ∀ m ∈ w y, ∀ y' ∈ m.heights, y - d ≤ y' ∧ y' ≤ y)
    (h : Draws gap before (k ()) words d b) :
    Draws gap before ((fun p ↦ draw (w p.y) p) >>= k) words d b := by
  intro p
  obtain ⟨ms, rows, hk, hlays, hwords⟩ := h ⟨p.marks ++ w p.y, p.y⟩
  refine ⟨w p.y ++ ms, rows, ?_, ⟨hlays.le, ?_, hlays.apart, hlays.between, ?_⟩, hwords⟩
  · rw [← List.append_assoc, ← hk]
    rfl
  · rw [List.filterMap_append, hsilent, List.nil_append]
    exact hlays.texts
  · intro m hm
    rcases List.mem_append.mp hm with hm | hm
    · exact hwithin p.y m hm
    · exact hlays.within m hm

/-- A word more on the row. -/
theorem draws_word {w : ℚ → List Mark} {s : String} {k : Unit → Drawing ε β}
    (hword : ∀ y, (w y).filterMap Mark.text = [(y, s)])
    (hwithin : ∀ y, ∀ m ∈ w y, ∀ y' ∈ m.heights, y' = y)
    (h : Draws gap (before ++ [s]) (k ()) words d b) :
    Draws gap before ((fun p ↦ draw (w p.y) p) >>= k) words d b := by
  intro p
  obtain ⟨ms, rows, hk, hlays, hwords⟩ := h ⟨p.marks ++ w p.y, p.y⟩
  refine ⟨w p.y ++ ms, rows, ?_, ⟨hlays.le, ?_, hlays.apart, hlays.between, ?_⟩, hwords⟩
  · rw [← List.append_assoc, ← hk]
    rfl
  · rw [List.filterMap_append, hword, ← hlays.texts, List.map_append, List.append_assoc]
    rfl
  · intro m hm y hy
    rcases List.mem_append.mp hm with hm | hm
    · rw [hwithin p.y m hm y hy]
      exact ⟨hlays.le, le_rfl⟩
    · exact hlays.within m hm y hy

theorem draws_text {x : ℚ} {s font : String} {size : ℕ} {k : Unit → Drawing ε β}
    (h : Draws gap (before ++ [s]) (k ()) words d b) :
    Draws gap before (text x s font size >>= k) words d b := by
  apply draws_word (w := fun y ↦ [.setFont font size, .drawString x y s]) (s := s) _ _ h
  · intro y
    rfl
  · intro y m hm y' hy'
    rcases List.mem_cons.mp hm with rfl | hm
    · cases hy'
    · obtain rfl := List.mem_singleton.mp hm
      exact List.mem_singleton.mp hy'

theorem draws_textRight {x : ℚ} {s font : String} {size : ℕ} {k : Unit → Drawing ε β}
    (h : Draws gap (before ++ [s]) (k ()) words d b) :
    Draws gap before (textRight x s font size >>= k) words d b := by
  apply draws_word (w := fun y ↦ [.setFont font size, .drawRightString x y s]) (s := s) _ _ h
  · intro y
    rfl
  · intro y m hm y' hy'
    rcases List.mem_cons.mp hm with rfl | hm
    · cases hy'
    · obtain rfl := List.mem_singleton.mp hm
      exact List.mem_singleton.mp hy'

/-- A line that the program goes below. -/
theorem draws_rule {below x₁ x₂ : ℚ} {k : Unit → Drawing ε β} (hbelow : 0 ≤ below ∧ below ≤ d)
    (h : Draws gap before (k ()) words d b) :
    Draws gap before (rule below x₁ x₂ >>= k) words d b := by
  apply draws_silent (w := fun y ↦ [.line x₁ (y - below) x₂ (y - below)]) _ _ h
  · intro y
    rfl
  · intro y m hm y' hy'
    obtain rfl := List.mem_singleton.mp hm
    have hy : y' = y - below := by
      rcases List.mem_cons.mp hy' with rfl | hy'
      · rfl
      · exact List.mem_singleton.mp hy'
    rw [hy]
    constructor <;> linarith [hbelow.1, hbelow.2]

/-- Settings of the canvas. -/
theorem draws_set {m : Mark} {k : Unit → Drawing ε β} (htext : m.text = none)
    (hheights : m.heights = []) (h : Draws gap before (k ()) words d b) :
    Draws gap before (draw [m] >>= k) words d b := by
  apply draws_silent (w := fun _ ↦ [m]) _ _ h
  · intro y
    rw [List.filterMap_cons_none htext, List.filterMap_nil]
  · intro y m' hm' y' hy'
    obtain rfl := List.mem_singleton.mp hm'
    rw [hheights] at hy'
    cases hy'

/-- The end of a row. -/
theorem draws_end {e : ℚ} (hgap : 0 ≤ gap) (he : gap ≤ e) :
    Draws gap before (down e : Drawing ε Unit) [before] e () := by
  intro p
  refine ⟨[], [(p.y, before)], ?_, ⟨by linarith, ?_, List.pairwise_singleton _ _, ?_, ?_⟩, rfl⟩
  · rw [List.append_nil]
    rfl
  · rw [List.flatMap_singleton, List.filterMap_nil, List.append_nil]
  · intro r hr
    rw [List.mem_singleton.mp hr]
    exact ⟨by linarith, le_rfl⟩
  · intro m hm
    exact absurd hm List.not_mem_nil

/-- On to the next row. -/
theorem draws_down {e : ℚ} {k : Unit → Drawing ε β} (hgap : 0 ≤ gap) (he : gap ≤ e)
    (h : Draws gap [] (k ()) words d b) :
    Draws gap before (down e >>= k) (before :: words) (e + d) b :=
  (draws_end hgap he).bind h

/-- Some way down where there is no row. -/
theorem draws_skip {e : ℚ} {k : Unit → Drawing ε β} (he : 0 ≤ e)
    (h : Draws gap [] (k ()) words d b) : Draws gap [] (down e >>= k) words (e + d) b := by
  have hdown : Draws gap [] (down e : Drawing ε Unit) [] e () := by
    intro p
    refine ⟨[], [], ?_, ⟨by linarith, rfl, List.Pairwise.nil, ?_, ?_⟩, rfl⟩
    · rw [List.append_nil]
      rfl
    · intro r hr
      exact absurd hr List.not_mem_nil
    · intro m hm
      exact absurd hm List.not_mem_nil
  exact hdown.bind h

/-- Rows and heights may be given in another way. -/
theorem Draws.congr (h : Draws gap before f words d a) (hwords : words = words') (hd : d = d') :
    Draws gap before f words' d' a := by
  subst hwords
  subst hd
  exact h

end Rules

end HightowerPos.Canvas
