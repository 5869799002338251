import Mathlib.Data.List.TakeWhile

/-!
# Portable pixel maps

The binary format of the Netpbm tools with one byte for a sample: the letters P6, width, height
and the largest sample in decimal, and the samples, three for each pixel, row after row. White
space separates the numbers, and a single one the last number from the samples.

`read` accepts a file if it holds one image and nothing else. It gets back what `write` has
written, and nothing at all from a file that has been cut short: `read_write`, `read_take`.
-/

namespace Netpbm

/-- Red, green and blue of each pixel, from the top left. -/
structure Image where
  width : Nat
  height : Nat
  samples : List UInt8
  fits : samples.length = width * height * 3
  deriving DecidableEq

/-- Space, tab, line feed and the other white space. -/
def isBlank (byte : UInt8) : Bool :=
  byte == 32 || (9 ≤ byte && byte ≤ 13)

def isDigit (byte : UInt8) : Bool :=
  48 ≤ byte && byte ≤ 57

/-- The bytes of a text. -/
def ascii (text : List Char) : List UInt8 :=
  text.map fun c => UInt8.ofNat c.toNat

/-- The number that digits stand for. -/
def value (digits : List UInt8) : Nat :=
  Nat.ofDigitChars 10 (digits.map fun byte => Char.ofNat byte.toNat) 0

/-- A parser takes some bytes from the front. -/
abbrev Parser (α : Type) :=
  StateT (List UInt8) Option α

/-- The letters that a file starts with. -/
def magic : Parser Unit
  | 80 :: 54 :: rest => some ((), rest)
  | _ => none

/-- A byte of white space. -/
def blank : Parser Unit
  | [] => none
  | byte :: rest => if isBlank byte then some ((), rest) else none

/-- White space. -/
def blanks : Parser Unit
  | [] => none
  | byte :: rest => if isBlank byte then some ((), rest.dropWhile isBlank) else none

/-- A number in decimal. -/
def number : Parser Nat := fun bytes =>
  if bytes.takeWhile isDigit = [] then none
  else some (value (bytes.takeWhile isDigit), bytes.dropWhile isDigit)

/-- The largest sample is 255. -/
def maxval : Parser Unit := do
  let largest ← number
  if largest = 255 then blank else failure

/-- Width and height. -/
def header : Parser (Nat × Nat) := do
  magic
  blanks
  let width ← number
  blanks
  let height ← number
  blanks
  maxval
  pure (width, height)

/-- The image in a file. -/
def read (bytes : List UInt8) : Option Image :=
  match header.run bytes with
  | none => none
  | some ((width, height), samples) =>
      if fits : samples.length = width * height * 3 then some ⟨width, height, samples, fits⟩
      else none

/-- What stands in front of the samples. -/
def front (width height : Nat) : List UInt8 :=
  ascii ("P6\n".toList ++ Nat.toDigits 10 width ++ " ".toList ++ Nat.toDigits 10 height ++
    "\n255\n".toList)

/-- The file for an image. -/
def write (image : Image) : List UInt8 :=
  front image.width image.height ++ image.samples

section Parsers

variable {α β : Type} {p : Parser α} {q : α → Parser β}

/-- What a parser finds is there also when there is more. -/
def Firm (p : Parser α) : Prop :=
  ∀ bytes a rest more, p.run bytes = some (a, rest) → p.run (bytes ++ more) = some (a, rest ++ more)

/-- The same, unless the parser has come to the end: there it may have found a part only. -/
def FirmWithin (p : Parser α) : Prop :=
  ∀ bytes a rest more, p.run bytes = some (a, rest) → rest ≠ [] →
    p.run (bytes ++ more) = some (a, rest ++ more)

/-- A parser that does without nothing. -/
def Hungry (p : Parser α) : Prop :=
  p.run [] = none

theorem Firm.within (firm : Firm p) : FirmWithin p :=
  fun bytes a rest more found _ => firm bytes a rest more found

theorem firm_pure (a : α) : Firm (pure a : Parser α) := by
  rintro bytes _ rest more ⟨⟩
  rfl

theorem run_bind_eq_some {bytes rest : List UInt8} {b : β} :
    (p >>= q).run bytes = some (b, rest) ↔
      ∃ a mid, p.run bytes = some (a, mid) ∧ (q a).run mid = some (b, rest) := by
  rw [StateT.run_bind]
  simp [Option.bind_eq_some_iff]

/-- The second parser needs something, so the first one has not come to the end. -/
theorem FirmWithin.bind (first : FirmWithin p) (second : ∀ a, Firm (q a))
    (hungry : ∀ a, Hungry (q a)) : Firm (p >>= q) := by
  intro bytes b rest more found
  obtain ⟨a, mid, found, then'⟩ := run_bind_eq_some.mp found
  have some : mid ≠ [] := by
    rintro rfl
    cases (hungry a).symm.trans then'
  exact run_bind_eq_some.mpr
    ⟨a, mid ++ more, first bytes a mid more found some, second a mid b rest more then'⟩

theorem Firm.bind (first : Firm p) (second : ∀ a, Firm (q a)) : Firm (p >>= q) := by
  intro bytes b rest more found
  obtain ⟨a, mid, found, then'⟩ := run_bind_eq_some.mp found
  exact run_bind_eq_some.mpr
    ⟨a, mid ++ more, first bytes a mid more found, second a mid b rest more then'⟩

theorem Hungry.bind (first : Hungry p) : Hungry (p >>= q) := by
  show (p >>= q).run [] = none
  rw [StateT.run_bind, first]
  rfl

end Parsers

section Firmness

theorem firm_magic : Firm magic := by
  intro bytes a rest more found
  change magic bytes = some (a, rest) at found
  unfold magic at found
  split at found
  · cases found
    rfl
  · cases found

theorem firm_blank : Firm blank := by
  intro bytes a rest more found
  change blank bytes = some (a, rest) at found
  unfold blank at found
  split at found
  · cases found
  · rename_i byte rest
    obtain ⟨white, same⟩ := Option.ite_none_right_eq_some.mp found
    cases same
    exact if_pos white

/-- A run of bytes that ends before the end of the file ends there in a longer file, too. -/
theorem dropWhile_append {r : UInt8 → Bool} {bytes : List UInt8} (more : List UInt8)
    (some : bytes.dropWhile r ≠ []) :
    (bytes ++ more).dropWhile r = bytes.dropWhile r ++ more ∧
      (bytes ++ more).takeWhile r = bytes.takeWhile r := by
  induction bytes with
  | nil => exact absurd rfl some
  | cons byte bytes ih =>
      rw [List.cons_append, List.dropWhile_cons, List.takeWhile_cons, List.dropWhile_cons,
        List.takeWhile_cons]
      rw [List.dropWhile_cons] at some
      split
      · rename_i here
        rw [if_pos here] at some
        obtain ⟨drop, take⟩ := ih some
        exact ⟨drop, by rw [take]⟩
      · exact ⟨rfl, rfl⟩

theorem firm_blanks : FirmWithin blanks := by
  intro bytes a rest more found inside
  change blanks bytes = some (a, rest) at found
  unfold blanks at found
  split at found
  · cases found
  · rename_i byte bytes
    obtain ⟨white, same⟩ := Option.ite_none_right_eq_some.mp found
    cases same
    show (if _ then some ((), (bytes ++ more).dropWhile isBlank) else none) = _
    rw [if_pos white, (dropWhile_append more inside).1]

theorem firm_number : FirmWithin number := by
  intro bytes n rest more found inside
  change number bytes = some (n, rest) at found
  unfold number at found
  obtain ⟨digits, same⟩ := Option.ite_none_left_eq_some.mp found
  cases same
  obtain ⟨drop, take⟩ := dropWhile_append more inside
  show (if _ then none else some (value ((bytes ++ more).takeWhile isDigit), _)) = _
  rw [take, drop, if_neg digits]

theorem hungry_blanks : Hungry blanks := rfl

theorem hungry_number : Hungry number := rfl

theorem firm_maxval : Firm maxval := by
  have rest (n : Nat) : Firm (if n = 255 then blank else failure) ∧
      Hungry (if n = 255 then blank else failure) := by
    split
    · exact ⟨firm_blank, rfl⟩
    · exact ⟨nofun, rfl⟩
  exact firm_number.bind (fun n => (rest n).1) fun n => (rest n).2

/-- The header is found where it is, however long the file is. -/
theorem firm_header : Firm header := by
  have last (width height : Nat) :
      Firm (do maxval; pure (width, height)) ∧ Hungry (do maxval; pure (width, height)) :=
    ⟨firm_maxval.bind fun _ => firm_pure _, (Hungry.bind hungry_number).bind⟩
  have third (width height : Nat) :
      Firm (do blanks; maxval; pure (width, height)) ∧
        Hungry (do blanks; maxval; pure (width, height)) :=
    ⟨firm_blanks.bind (fun _ => (last width height).1) fun _ => (last width height).2,
      hungry_blanks.bind⟩
  refine firm_magic.bind fun _ => firm_blanks.bind (fun _ => ?_) fun _ => hungry_number.bind
  refine firm_number.bind (fun width => ?_) fun _ => hungry_blanks.bind
  refine firm_blanks.bind (fun _ => ?_) fun _ => hungry_number.bind
  exact firm_number.bind (fun height => (third width height).1) fun height =>
    (third width height).2

end Firmness

/-- No file with an image is the beginning of another one. -/
theorem eq_nil_of_read {bytes more : List UInt8} {image image' : Image}
    (reads : read bytes = some image) (reads' : read (bytes ++ more) = some image') :
    more = [] := by
  unfold read at reads reads'
  split at reads
  · cases reads
  · rename_i width height samples found
    obtain ⟨fits, -⟩ := Option.dite_none_right_eq_some.mp reads
    rw [firm_header bytes _ _ more found] at reads'
    obtain ⟨fits', -⟩ := Option.dite_none_right_eq_some.mp reads'
    rw [List.length_append, fits] at fits'
    exact List.length_eq_zero_iff.mp (by omega)

section RoundTrip

/-- A run of bytes in front of one that does not belong to it. -/
theorem dropWhile_run {r : UInt8 → Bool} {bytes : List UInt8} {stop : UInt8}
    (belong : ∀ byte ∈ bytes, r byte = true) (stops : r stop = false) (rest : List UInt8) :
    (bytes ++ stop :: rest).dropWhile r = stop :: rest ∧
      (bytes ++ stop :: rest).takeWhile r = bytes := by
  rw [List.dropWhile_append_of_pos belong, List.takeWhile_append_of_pos belong,
    List.dropWhile_cons, List.takeWhile_cons, if_neg (by simp [stops]), if_neg (by simp [stops]),
    List.append_nil]
  exact ⟨rfl, rfl⟩

/-- Digits in decimal notation. -/
theorem digit_of_mem {n : Nat} {c : Char} (member : c ∈ Nat.toDigits 10 n) :
    48 ≤ c.toNat ∧ c.toNat ≤ 57 := by
  have digit := Nat.isDigit_of_mem_toDigits (by decide) (by decide) member
  simp only [Char.isDigit, Bool.and_eq_true, decide_eq_true_eq] at digit
  exact ⟨digit.1, digit.2⟩

/-- The byte of a digit stands for it. -/
theorem ofNat_toNat_digit {c : Char} (low : 48 ≤ c.toNat) (high : c.toNat ≤ 57) :
    (UInt8.ofNat c.toNat).toNat = c.toNat := by
  rw [UInt8.toNat_ofNat']
  omega

theorem value_toDigits (n : Nat) : value (ascii (Nat.toDigits 10 n)) = n := by
  have same : (ascii (Nat.toDigits 10 n)).map (fun byte => Char.ofNat byte.toNat) =
      Nat.toDigits 10 n := by
    rw [ascii, List.map_map]
    refine (List.map_congr_left fun c member => ?_).trans (List.map_id _)
    obtain ⟨low, high⟩ := digit_of_mem member
    show Char.ofNat (UInt8.ofNat c.toNat).toNat = c
    rw [ofNat_toNat_digit low high, Char.ofNat_toNat]
  rw [value, same]
  exact Nat.ofDigitChars_ten_toDigits

theorem isDigit_of_mem {n : Nat} {byte : UInt8} (member : byte ∈ ascii (Nat.toDigits 10 n)) :
    isDigit byte = true := by
  obtain ⟨c, digit, rfl⟩ := List.mem_map.mp member
  obtain ⟨low, high⟩ := digit_of_mem digit
  have same := ofNat_toNat_digit low high
  simp only [isDigit, Bool.and_eq_true, decide_eq_true_eq, UInt8.le_iff_toNat_le, same]
  exact ⟨low, high⟩

theorem not_isBlank_of_isDigit {byte : UInt8} (digit : isDigit byte = true) :
    isBlank byte = false := by
  simp only [isDigit, Bool.and_eq_true, decide_eq_true_eq, UInt8.le_iff_toNat_le] at digit
  obtain ⟨low, -⟩ := digit
  have low : 48 ≤ byte.toNat := low
  simp only [isBlank, Bool.or_eq_false_iff, Bool.and_eq_false_iff, decide_eq_false_iff_not,
    UInt8.le_iff_toNat_le, beq_eq_false_iff_ne, ne_eq, ← UInt8.toNat_inj]
  have high : (13 : UInt8).toNat = 13 := rfl
  have space : (32 : UInt8).toNat = 32 := rfl
  omega

/-- A number is read up to the first byte that is no digit. -/
theorem run_number (n : Nat) {stop : UInt8} (stops : isDigit stop = false) (rest : List UInt8) :
    number.run (ascii (Nat.toDigits 10 n) ++ stop :: rest) = some (n, stop :: rest) := by
  have belong (byte : UInt8) (member : byte ∈ ascii (Nat.toDigits 10 n)) : isDigit byte = true :=
    isDigit_of_mem member
  obtain ⟨drop, take⟩ := dropWhile_run belong stops rest
  have digits : ascii (Nat.toDigits 10 n) ≠ [] := by
    simp [ascii, Nat.toDigits_ne_nil]
  show (if _ then none else some (value (List.takeWhile isDigit _), List.dropWhile isDigit _)) = _
  rw [take, drop, if_neg digits, value_toDigits]

/-- White space in front of a number. -/
theorem run_blanks (n : Nat) {white : UInt8} (blank : isBlank white = true) (rest : List UInt8) :
    blanks.run (white :: (ascii (Nat.toDigits 10 n) ++ rest)) =
      some ((), ascii (Nat.toDigits 10 n) ++ rest) := by
  show (if _ then some ((), List.dropWhile isBlank _) else none) = _
  rw [if_pos blank]
  cases digits : ascii (Nat.toDigits 10 n) with
  | nil => simp [ascii, Nat.toDigits_ne_nil] at digits
  | cons byte bytes =>
      have digit : isDigit byte = true :=
        isDigit_of_mem (n := n) (by rw [digits]; exact List.mem_cons_self)
      rw [List.cons_append, List.dropWhile_cons,
        if_neg (by simp [not_isBlank_of_isDigit digit])]

theorem front_append (width height : Nat) (samples : List UInt8) :
    front width height ++ samples =
      80 :: 54 :: 10 :: (ascii (Nat.toDigits 10 width) ++ 32 ::
        (ascii (Nat.toDigits 10 height) ++ 10 ::
          (ascii (Nat.toDigits 10 255) ++ 10 :: samples))) := by
  have text (a b : List Char) : ascii (a ++ b) = ascii a ++ ascii b := List.map_append
  simp only [front, text, List.append_assoc]
  rfl

theorem run_header (width height : Nat) (samples : List UInt8) :
    header.run (front width height ++ samples) = some ((width, height), samples) := by
  rw [front_append, header]
  refine run_bind_eq_some.mpr ⟨(), _, rfl, run_bind_eq_some.mpr ⟨(), _, run_blanks width rfl _, ?_⟩⟩
  refine run_bind_eq_some.mpr ⟨width, _, run_number width rfl _, ?_⟩
  refine run_bind_eq_some.mpr ⟨(), _, run_blanks height rfl _, ?_⟩
  refine run_bind_eq_some.mpr ⟨height, _, run_number height rfl _, ?_⟩
  refine run_bind_eq_some.mpr ⟨(), _, run_blanks 255 rfl _, ?_⟩
  refine run_bind_eq_some.mpr ⟨(), samples, ?_, rfl⟩
  exact run_bind_eq_some.mpr ⟨255, _, run_number 255 rfl _, rfl⟩

/-- What was written is read. -/
theorem read_write (image : Image) : read (write image) = some image := by
  rw [read, write, run_header]
  exact dif_pos image.fits

/-- What is read from the beginning of a file is what was written, and all of it is there. -/
theorem eq_of_read {bytes : List UInt8} {image image' : Image} (part : bytes <+: write image)
    (reads : read bytes = some image') : image' = image := by
  obtain ⟨more, whole⟩ := part
  have all := read_write image
  rw [← whole] at all
  obtain rfl := eq_nil_of_read reads all
  rw [List.append_nil] at all
  exact Option.some.inj (reads.symm.trans all)

/-- A file that has been cut short is no image. -/
theorem read_take {image : Image} {n : Nat} (cut : n < (write image).length) :
    read ((write image).take n) = none := by
  cases reads : read ((write image).take n) with
  | none => rfl
  | some other =>
      have whole : read ((write image).take n ++ (write image).drop n) = some image := by
        rw [List.take_append_drop, read_write]
      have nothing := congrArg List.length (eq_nil_of_read reads whole)
      rw [List.length_drop, List.length_nil] at nothing
      omega

end RoundTrip

end Netpbm
