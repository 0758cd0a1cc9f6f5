import Mathlib.Data.List.Infix

/-! Go strings as byte lists, and strings.TrimSpace: it removes the leading and trailing
UTF-8 encodings of the runes unicode.IsSpace accepts; a byte run that decodes to no such
rune (invalid UTF-8 included) stays. -/
namespace MaudeStore.GoString

/-- The UTF-8 bytes of a Lean string, to write test inputs as text. -/
def bytes (s : String) : List UInt8 := s.toList.flatMap String.utf8EncodeChar

def join (sep : List UInt8) : List (List UInt8) → List UInt8
  | [] => []
  | [x] => x
  | x :: y :: ys => x ++ sep ++ join sep (y :: ys)

def contains (s sub : List UInt8) : Bool :=
  match s with
  | [] => sub.isEmpty
  | b :: t => sub.isPrefixOf (b :: t) || contains t sub

/-- strings.ToLower, as a search for ASCII text in its result sees it: A to Z become a to z,
and the two runes unicode.ToLower takes to ASCII letters, U+0130 (C4 B0) and U+212A (E2 84 AA),
become i and k. Go lowers every other rune to a rune that is not ASCII and writes an invalid
byte as U+FFFD, so there it puts bytes of at least 0x80 where such bytes were; those are kept
as they are, which leaves every ASCII run of the result as Go has it. -/
def toLower : List UInt8 → List UInt8
  | [] => []
  | 0xC4 :: 0xB0 :: s => 0x69 :: toLower s
  | 0xE2 :: 0x84 :: 0xAA :: s => 0x6B :: toLower s
  | b :: s => (if 65 ≤ b ∧ b ≤ 90 then b + 32 else b) :: toLower s

def isAsciiSpace (b : UInt8) : Bool := b == 32 || (9 ≤ b && b ≤ 13)

def spaceByte (b : UInt8) : Bool := isAsciiSpace b || 0x80 ≤ b

/-- The white-space encodings read in one direction: one ASCII byte, or two or three
bytes that are all at least 0x80. -/
structure SpaceCode where
  one : UInt8 → Bool
  two : UInt8 → UInt8 → Bool
  three : UInt8 → UInt8 → UInt8 → Bool
  one_ascii : ∀ a, one a → isAsciiSpace a
  two_high : ∀ a b, two a b → 0x80 ≤ a ∧ 0x80 ≤ b
  three_high : ∀ a b c, three a b c → 0x80 ≤ a ∧ 0x80 ≤ b ∧ 0x80 ≤ c

namespace SpaceCode
variable (C : SpaceCode)

def strip : List UInt8 → List UInt8
  | [] => []
  | a :: s =>
    if C.one a then strip s
    else match s with
      | [] => [a]
      | b :: s' =>
        if C.two a b then strip s'
        else match s' with
          | [] => a :: s
          | c :: s'' => if C.three a b c then strip s'' else a :: s

def starts : List UInt8 → Bool
  | a :: b :: c :: _ => C.one a || C.two a b || C.three a b c
  | [a, b] => C.one a || C.two a b
  | [a] => C.one a
  | [] => false

variable {C}

theorem strip_one {a : UInt8} (s : List UInt8) (h : C.one a) : C.strip (a :: s) = C.strip s := by
  rw [strip.eq_def]; simp [h]

theorem strip_two {a b : UInt8} (s : List UInt8) (h : ¬C.one a) (h2 : C.two a b) :
    C.strip (a :: b :: s) = C.strip s := by
  rw [strip.eq_def]; simp [h, h2]

theorem strip_three {a b c : UInt8} (s : List UInt8) (h : ¬C.one a) (h2 : ¬C.two a b)
    (h3 : C.three a b c) : C.strip (a :: b :: c :: s) = C.strip s := by
  rw [strip.eq_def]; simp [h, h2, h3]

theorem strip_of_starts {s : List UInt8} (h : C.starts s = false) : C.strip s = s := by
  match s with
  | [] => rfl
  | [a] => simp_all [starts, strip]
  | [a, b] => simp_all [starts, strip]
  | a :: b :: c :: t => simp_all [starts, strip]

theorem starts_strip (s : List UInt8) : C.starts (C.strip s) = false := by
  induction s using strip.induct C with
  | case1 => rfl
  | case2 a s h ih => rwa [strip_one s h]
  | case3 a h => simp [strip, starts, h]
  | case4 a h b s h2 ih => rwa [strip_two s h h2]
  | case5 a h b h2 => simp [strip, starts, h, h2]
  | case6 a h b h2 c s h3 ih => rwa [strip_three s h h2 h3]
  | case7 a h b h2 c s h3 => simp [strip, starts, h, h2, h3]

theorem strip_strip (s : List UInt8) : C.strip (C.strip s) = C.strip s :=
  strip_of_starts (starts_strip s)

theorem strip_suffix (s : List UInt8) :
    ∃ pre, s = pre ++ C.strip s ∧ ∀ b ∈ pre, spaceByte b := by
  induction s using strip.induct C with
  | case1 => exact ⟨[], rfl, by simp⟩
  | case2 a s h ih =>
    obtain ⟨pre, hs, hw⟩ := ih
    refine ⟨a :: pre, by rw [strip_one s h, List.cons_append, ← hs], ?_⟩
    simpa [spaceByte, C.one_ascii a h] using hw
  | case3 a h => exact ⟨[], by simp [strip, h], by simp⟩
  | case4 a h b s h2 ih =>
    obtain ⟨pre, hs, hw⟩ := ih
    obtain ⟨ha, hb⟩ := C.two_high a b h2
    refine ⟨a :: b :: pre, by rw [strip_two s h h2, List.cons_append, List.cons_append, ← hs], ?_⟩
    simpa [spaceByte, ha, hb] using hw
  | case5 a h b h2 => exact ⟨[], by simp [strip, h, h2], by simp⟩
  | case6 a h b h2 c s h3 ih =>
    obtain ⟨pre, hs, hw⟩ := ih
    obtain ⟨ha, hb, hc⟩ := C.three_high a b c h3
    refine ⟨a :: b :: c :: pre, by simp only [strip_three s h h2 h3, List.cons_append, ← hs], ?_⟩
    simpa [spaceByte, ha, hb, hc] using hw
  | case7 a h b h2 c s h3 => exact ⟨[], by simp [strip, h, h2, h3], by simp⟩

theorem starts_append_of_starts {t : List UInt8} (r : List UInt8) (h : C.starts t) :
    C.starts (t ++ r) := by
  match t, r with
  | [a], [] | [a, b], [] | a :: b :: c :: _, _ => simpa using h
  | [a], [b] | [a], _ :: _ :: _ | [a, b], _ :: _ => simp_all [starts]

theorem starts_mono {t u : List UInt8} (hp : t <+: u) (h : C.starts t) : C.starts u := by
  obtain ⟨r, rfl⟩ := hp
  exact starts_append_of_starts r h

end SpaceCode

/-- The encodings of U+0009..U+000D, U+0020, U+0085, U+00A0, U+1680, U+2000..U+200A,
U+2028, U+2029, U+202F, U+205F and U+3000, read from the front (TrimLeftFunc). -/
def forward : SpaceCode where
  one := isAsciiSpace
  two a b := a == 0xC2 && (b == 0x85 || b == 0xA0)
  three a b c := (a == 0xE1 && b == 0x9A && c == 0x80) ||
    (a == 0xE2 && b == 0x80 && (0x80 ≤ c && c ≤ 0x8A || c == 0xA8 || c == 0xA9 || c == 0xAF)) ||
    (a == 0xE2 && b == 0x81 && c == 0x9F) || (a == 0xE3 && b == 0x80 && c == 0x80)
  one_ascii _ h := h
  two_high a b h := by
    simp only [Bool.and_eq_true, Bool.or_eq_true, beq_iff_eq] at h
    rcases h with ⟨rfl, rfl | rfl⟩ <;> decide
  three_high a b c h := by
    simp only [Bool.and_eq_true, Bool.or_eq_true, beq_iff_eq, decide_eq_true_eq] at h
    rcases h with (((⟨⟨rfl, rfl⟩, rfl⟩ | ⟨⟨rfl, rfl⟩, ((⟨h, -⟩ | rfl) | rfl) | rfl⟩) |
      ⟨⟨rfl, rfl⟩, rfl⟩) | ⟨⟨rfl, rfl⟩, rfl⟩)
    all_goals first | decide | exact ⟨by decide, by decide, h⟩

def backward : SpaceCode where
  one := isAsciiSpace
  two a b := forward.two b a
  three a b c := forward.three c b a
  one_ascii _ h := h
  two_high a b h := (forward.two_high b a h).symm
  three_high a b c h := by
    obtain ⟨hc, hb, ha⟩ := forward.three_high c b a h
    exact ⟨ha, hb, hc⟩

def trimLeft (s : List UInt8) : List UInt8 := forward.strip s

def trimRight (s : List UInt8) : List UInt8 := (backward.strip s.reverse).reverse

/-- strings.TrimSpace, as TrimRightFunc (TrimLeftFunc s unicode.IsSpace) unicode.IsSpace. -/
def trimSpace (s : List UInt8) : List UInt8 := trimRight (trimLeft s)

theorem trimRight_initial (s : List UInt8) : trimRight s <+: s := by
  obtain ⟨pre, hs, -⟩ := backward.strip_suffix s.reverse
  exact ⟨pre.reverse, by rw [trimRight, ← List.reverse_append, ← hs, List.reverse_reverse]⟩

theorem trimSpace_trimSpace (s : List UInt8) : trimSpace (trimSpace s) = trimSpace s := by
  have hl : forward.starts (trimSpace s) = false := Bool.eq_false_iff.2 fun h => by
    simpa [trimLeft, SpaceCode.starts_strip] using
      forward.starts_mono (trimRight_initial (trimLeft s)) h
  rw [trimSpace, trimLeft, SpaceCode.strip_of_starts hl, trimSpace, trimRight, trimRight,
    List.reverse_reverse, SpaceCode.strip_strip]

/-- TrimSpace cuts white-space bytes off both ends and keeps the middle as it is. -/
theorem trimSpace_infix (s : List UInt8) : ∃ pre post, s = pre ++ trimSpace s ++ post ∧
    (∀ b ∈ pre, spaceByte b) ∧ ∀ b ∈ post, spaceByte b := by
  obtain ⟨pre, hs, hpre⟩ := forward.strip_suffix s
  obtain ⟨post, hu, hpost⟩ := backward.strip_suffix (trimLeft s).reverse
  refine ⟨pre, post.reverse, ?_, hpre, by simpa using hpost⟩
  have : trimLeft s = trimSpace s ++ post.reverse := by
    rw [trimSpace, trimRight, ← List.reverse_append, ← hu, List.reverse_reverse]
  rw [List.append_assoc, ← this]
  exact hs

end MaudeStore.GoString
