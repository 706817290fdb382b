/-!
# Kinds of characters

The kinds of characters that patterns and arguments are read by: the white space that is cut off
both ends of an entry, the control codes that a text with styles does not keep, the decimal digits
of all scripts, and the capitals of the Latin letters. `trimOf_between` says what trimming leaves,
and `decimal?_eq_some_iff` that a digit has one value, the distance from the zero of its script.
-/
namespace TintedText.Text

/-! ### Blank characters

White space is that of the character database with the four separator codes below the space. -/

/-- The code points of the blank characters. -/
def blankCodes : List Nat :=
  [0x09, 0x0A, 0x0B, 0x0C, 0x0D, 0x1C, 0x1D, 0x1E, 0x1F, 0x20, 0x85, 0xA0, 0x1680,
   0x2000, 0x2001, 0x2002, 0x2003, 0x2004, 0x2005, 0x2006, 0x2007, 0x2008, 0x2009, 0x200A,
   0x2028, 0x2029, 0x202F, 0x205F, 0x3000]

/-- White space, or a separator code. -/
def isBlank (c : Char) : Bool :=
  blankCodes.contains c.toNat

/-- One of the four separator codes below the space. -/
def isSeparatorCode (c : Char) : Bool :=
  0x1C ≤ c.toNat && c.toNat ≤ 0x1F

/-- The text from its first character that is not of the given kind up to its last one. -/
def trimOf (p : Char → Bool) (text : List Char) : List Char :=
  ((text.dropWhile p).reverse.dropWhile p).reverse

def trim (text : List Char) : List Char :=
  trimOf isBlank text

theorem isBlank_of_isWhitespace (c : Char) (h : c.isWhitespace = true) : isBlank c = true := by
  simp only [Char.isWhitespace, Bool.or_eq_true, decide_eq_true_eq] at h
  rcases h with ((rfl | rfl) | rfl) | rfl <;> rfl

theorem exists_trimOf (p : Char → Bool) (text : List Char) :
    ∃ front back, text = front ++ trimOf p text ++ back ∧ (∀ c ∈ front, p c = true) ∧
      ∀ c ∈ back, p c = true := by
  have hfront := List.takeWhile_append_dropWhile (p := p) (l := text)
  have hback := List.takeWhile_append_dropWhile (p := p) (l := (text.dropWhile p).reverse)
  refine ⟨text.takeWhile p, ((text.dropWhile p).reverse.takeWhile p).reverse, ?_, ?_, ?_⟩
  · rw [trimOf, List.append_assoc, ← List.reverse_append, hback, List.reverse_reverse, hfront]
  · exact List.all_eq_true.mp List.all_takeWhile
  · intro c hc
    exact List.all_eq_true.mp List.all_takeWhile c (List.mem_reverse.mp hc)

/-- Trimming cuts off all around a text that has none of the given kind. -/
theorem trimOf_between {p : Char → Bool} {front text back : List Char}
    (hfront : ∀ c ∈ front, p c = true) (hback : ∀ c ∈ back, p c = true)
    (htext : ∀ c ∈ text, p c = false) : trimOf p (front ++ text ++ back) = text := by
  have hdrop : ∀ {around inner rest : List Char}, (∀ c ∈ around, p c = true) →
      (∀ c ∈ inner, p c = false) → inner ≠ [] →
        (around ++ (inner ++ rest)).dropWhile p = inner ++ rest := by
    intro around inner rest haround hinner hne
    obtain ⟨c, inner, rfl⟩ := List.exists_cons_of_ne_nil hne
    rw [List.dropWhile_append_of_pos haround]
    exact List.dropWhile_cons_of_neg (by simp [hinner c (by simp)])
  by_cases hne : text = []
  · have hall : (front ++ back ++ []).dropWhile p = [] :=
      List.dropWhile_append_of_pos fun c hc => (List.mem_append.mp hc).elim (hfront c) (hback c)
    rw [List.append_nil] at hall
    rw [trimOf, hne, List.append_nil, hall]
    rfl
  · have hreverse : (text.reverse ++ []).reverse = text := by simp
    rw [trimOf, List.append_assoc, hdrop hfront htext hne, List.reverse_append,
      ← List.append_nil text.reverse,
      hdrop (by simpa using hback) (by simpa using htext) (by simpa using hne), hreverse]

theorem trim_eq_self {text : List Char} (h : ∀ c ∈ text, isBlank c = false) : trim text = text := by
  have hbetween : trimOf isBlank ([] ++ text ++ []) = text :=
    trimOf_between (by simp) (by simp) h
  simpa [trim] using hbetween

/-! ### Control codes

A text that carries styles keeps no bell, backspace, vertical tab, form feed or carriage return. The
other control codes stay in it, the line feed and the escape character among them. -/

/-- One of the control codes, which stand in two blocks. -/
def isControl (c : Char) : Bool :=
  c.toNat < 0x20 || 0x7F ≤ c.toNat && c.toNat ≤ 0x9F

/-- One of the five control codes that are dropped. -/
def isDroppedControl (c : Char) : Bool :=
  ['\x07', '\x08', '\x0b', '\x0c', '\x0d'].contains c

/-- The text without these control codes. -/
def dropControls (text : List Char) : List Char :=
  text.filter (!isDroppedControl ·)

@[simp] theorem dropControls_append (left right : List Char) :
    dropControls (left ++ right) = dropControls left ++ dropControls right :=
  List.filter_append ..

theorem dropControls_eq_self {text : List Char} (h : ∀ c ∈ text, isControl c = true → c = '\n') :
    dropControls text = text := by
  have hall : (['\x07', '\x08', '\x0b', '\x0c', '\x0d'].all fun c =>
      isControl c && c != '\n') = true := by
    decide
  refine List.filter_eq_self.mpr fun c hc => ?_
  rw [Bool.not_eq_true', ← Bool.not_eq_true, isDroppedControl, List.contains_iff_mem]
  intro hmem
  obtain ⟨hcontrol, hne⟩ := (Bool.and_eq_true ..).mp (List.all_eq_true.mp hall c hmem)
  exact bne_iff_ne.mp hne (h c hc hcontrol)

/-! ### Decimal digits

Every script that writes numbers by place has ten digits with consecutive code points; the table
lists the zeros (version 14 of the character database). The digits of two scripts never overlap. -/

/-- The code points of the zeros. -/
def zeroCodes : List Nat :=
  [0x30, 0x660, 0x6F0, 0x7C0, 0x966, 0x9E6, 0xA66, 0xAE6, 0xB66, 0xBE6, 0xC66, 0xCE6, 0xD66, 0xDE6,
   0xE50, 0xED0, 0xF20, 0x1040, 0x1090, 0x17E0, 0x1810, 0x1946, 0x19D0, 0x1A80, 0x1A90, 0x1B50,
   0x1BB0, 0x1C40, 0x1C50, 0xA620, 0xA8D0, 0xA900, 0xA9D0, 0xA9F0, 0xAA50, 0xABF0, 0xFF10, 0x104A0,
   0x10D30, 0x11066, 0x110F0, 0x11136, 0x111D0, 0x112F0, 0x11450, 0x114D0, 0x11650, 0x116C0,
   0x11730, 0x118E0, 0x11950, 0x11C50, 0x11D50, 0x11DA0, 0x16A60, 0x16AC0, 0x16B50, 0x1D7CE,
   0x1D7D8, 0x1D7E2, 0x1D7EC, 0x1D7F6, 0x1E140, 0x1E2F0, 0x1E950, 0x1FBF0]

/-- The value of a decimal digit of any script. -/
def decimal? (c : Char) : Option Nat :=
  (zeroCodes.find? fun first => first ≤ c.toNat && c.toNat < first + 10).map (c.toNat - ·)

theorem decimal?_ascii (c : Char) (h : c.isDigit = true) : decimal? c = some (c.toNat - 48) := by
  simp only [Char.isDigit, Bool.and_eq_true, decide_eq_true_eq, UInt32.le_iff_toNat_le] at h
  have hlow : 48 ≤ c.toNat := h.1
  have hhigh : c.toNat ≤ 57 := h.2
  have : c.toNat < 48 + 10 := by omega
  simp [decimal?, zeroCodes, hlow, this]

/-- The digits of a script end before those of another one begin. -/
theorem zeroCodes_apart : ∀ first ∈ zeroCodes, ∀ other ∈ zeroCodes,
    first = other ∨ first + 10 ≤ other ∨ other + 10 ≤ first := by
  decide +kernel

theorem decimal?_eq_some_iff {c : Char} {value : Nat} :
    decimal? c = some value ↔ value < 10 ∧ ∃ first ∈ zeroCodes, c.toNat = first + value := by
  rw [decimal?, Option.map_eq_some_iff]
  constructor
  · rintro ⟨first, hfind, rfl⟩
    have hmem := List.mem_of_find?_eq_some hfind
    have hin := List.find?_some hfind
    simp only [Bool.and_eq_true, decide_eq_true_eq] at hin
    exact ⟨by omega, first, hmem, by omega⟩
  · rintro ⟨hlt, first, hmem, hc⟩
    -- the search stops at some script that has the character, which is this one
    have hsome : (zeroCodes.find? fun first => first ≤ c.toNat && c.toNat < first + 10).isSome := by
      refine List.find?_isSome.mpr ⟨first, hmem, ?_⟩
      simp only [Bool.and_eq_true, decide_eq_true_eq]
      omega
    obtain ⟨other, hfind⟩ := Option.isSome_iff_exists.mp hsome
    have hin := List.find?_some hfind
    simp only [Bool.and_eq_true, decide_eq_true_eq] at hin
    have := zeroCodes_apart first hmem other (List.mem_of_find?_eq_some hfind)
    exact ⟨other, hfind, by omega⟩

/-! ### Capital letters

The capitals of a text as far as they are plain Latin letters: besides the small Latin letters, the
dotless i, the long s, the sharp s and the Latin ligatures have such capitals. All other characters
stand for themselves here, since none of them has a plain letter for its capital. -/

/-- The capitals of one character. -/
def capital (c : Char) : List Char :=
  if 'a' ≤ c ∧ c ≤ 'z' then [Char.ofNat (c.toNat - 32)]
  else match c with
    | '\u0131' => ['I']
    | '\u017f' => ['S']
    | '\u00df' => ['S', 'S']
    | '\ufb00' => ['F', 'F']
    | '\ufb01' => ['F', 'I']
    | '\ufb02' => ['F', 'L']
    | '\ufb03' => ['F', 'F', 'I']
    | '\ufb04' => ['F', 'F', 'L']
    | '\ufb05' => ['S', 'T']
    | '\ufb06' => ['S', 'T']
    | _ => [c]

def capitals (text : List Char) : List Char :=
  text.flatMap capital

end TintedText.Text
