/-!
# ModelIdl.Text.Terminal

Plain text out of text with terminal controls. A message sets some of its words off by colours; where it
goes to a file or another program, only what can be read of it is written. Design points:

* **Control sequences** open with an escape character. `Reading.past` says where each character leads:
  some sequences are two characters long, some run to a final character, some hold a text of their own
  that runs to a terminator.
* **Runs.** Behind a character that is kept, all that can be read is kept, until something comes that
  cannot. Only then do sequences count again.
* **Layout inside a sequence** is kept: a terminal acts on it there, too.
-/

namespace ModelIdl.Terminal

/-! ### Characters -/

/-- Is the character ASCII white space that a terminal acts on? -/
def isLayout (c : Char) : Bool :=
  c == '\t' || c == '\n' || c == '\x0c' || c == '\r'

/-- Can the character stand in plain text? -/
def isPlain (c : Char) : Bool :=
  isLayout c || (' ' ≤ c && c != '\x7f')

/-- Does the character hold the byte that ends a control string? -/
def holdsTerminator (c : Char) : Bool :=
  (String.utf8EncodeChar c).contains 0x9C

/-! ### Control sequences -/

/-- Where reading stands among control sequences. -/
inductive Reading where
  /-- Outside of all of them. -/
  | text
  /-- Behind an escape character. -/
  | escape
  /-- In a sequence of an escape character, intermediate characters and a final one. -/
  | shortSequence
  /-- In a control sequence, which runs to its final character. -/
  | controlSequence
  /-- At the parameters of a device control, before any of them. -/
  | deviceStart
  /-- Among the parameters of a device control. -/
  | deviceParameters
  /-- Among the intermediate characters of a device control. -/
  | deviceIntermediates
  /-- In a control string. -/
  | controlString
  /-- In a command to the operating system, which ends with a bell. -/
  | systemCommand
deriving DecidableEq, Repr

namespace Reading

/-- The reading behind the character after an escape character. -/
def pastEscape (c : Char) : Reading :=
  if ' ' ≤ c && c ≤ '/' then shortSequence
  else if c = '[' then controlSequence
  else if c = 'P' then deviceStart
  else if c = 'X' || c = '^' || c = '_' then controlString
  else if c = ']' then systemCommand
  else if '0' ≤ c && c ≤ '~' then text
  else escape

/-- The reading behind a character at the head of a device control; anything out of place makes the whole
device control a string to skip. -/
def pastDevice (r : Reading) (c : Char) : Reading :=
  if '@' ≤ c && c ≤ '~' then controlString
  else if ' ' ≤ c && c ≤ '/' then deviceIntermediates
  else if '0' ≤ c && c ≤ '?' then
    if r = deviceStart || (r = deviceParameters && c ≤ ';') then deviceParameters else controlString
  else r

/-- The reading behind a character. -/
def past (r : Reading) (c : Char) : Reading :=
  if c = '\x18' || c = '\x1a' then text
  else if c = '\x1b' then escape
  else
    match r with
    | text => text
    | escape => pastEscape c
    | shortSequence => if '0' ≤ c && c ≤ '~' then text else shortSequence
    | controlSequence => if '@' ≤ c && c ≤ '~' then text else controlSequence
    | deviceStart | deviceParameters | deviceIntermediates => r.pastDevice c
    | controlString => if holdsTerminator c then text else controlString
    | systemCommand => if c = '\x07' then text else systemCommand

/-- Is a character kept where no run of plain text is open? -/
def keeps (r : Reading) (c : Char) : Bool :=
  match r with
  | text => isPlain c
  | escape | shortSequence | controlSequence => isLayout c
  | _ => false

end Reading

/-! ### Plain text -/

/-- What is kept of a text: behind a reading, and with a run of plain text open or not. -/
def kept (isOpen : Bool) (r : Reading) : List Char → List Char
  | [] => []
  | c :: rest =>
    if (isOpen && isPlain c) || (!isOpen && r.keeps c) then
      c :: kept true (if c.val < 0x80 then r else .text) rest
    else kept false (r.past c) rest

/-- Layout can stand in plain text. -/
theorem isPlain_of_isLayout {c : Char} (h : isLayout c = true) : isPlain c = true := by
  simp [isPlain, h]

/-- A character that is kept where no run is open can stand in plain text. -/
theorem Reading.isPlain_of_keeps {r : Reading} {c : Char} (h : r.keeps c = true) :
    isPlain c = true := by
  cases r with
  | text => exact h
  | escape | shortSequence | controlSequence => exact isPlain_of_isLayout h
  | deviceStart | deviceParameters | deviceIntermediates | controlString | systemCommand =>
    simp [Reading.keeps] at h

/-- Nothing is kept but what can stand in plain text. -/
theorem isPlain_of_mem_kept {isOpen : Bool} {r : Reading} {s : List Char} {c : Char}
    (h : c ∈ kept isOpen r s) : isPlain c = true := by
  induction s generalizing isOpen r with
  | nil => simp [kept] at h
  | cons a rest ih =>
    rw [kept] at h
    split at h
    next keep =>
      rcases List.mem_cons.mp h with rfl | h
      · cases isOpen with
        | true => simpa using keep
        | false => exact Reading.isPlain_of_keeps (by simpa using keep)
      · exact ih h
    next => exact ih h

/-- Text without controls is kept as it is. -/
theorem kept_eq_self {isOpen : Bool} {s : List Char} (h : ∀ c ∈ s, isPlain c = true) :
    kept isOpen .text s = s := by
  induction s generalizing isOpen with
  | nil => rfl
  | cons a rest ih =>
    have ha := h a (by simp)
    rw [kept, if_pos (by cases isOpen <;> simp [Reading.keeps, ha]), ite_self,
      ih fun c hc => h c (by simp [hc])]

/-- What can be read of a text. -/
def plain (s : String) : String :=
  String.ofList (kept false .text s.toList)

/-- The first line of a text. It ends before a line feed, and before a carriage return in front of one. -/
def firstLine (s : String) : String :=
  let line := s.toList.takeWhile (· ≠ '\n')
  String.ofList (if line.length < s.length && line.getLast? = some '\r' then line.dropLast else line)

/-- A value as messages set it off. -/
def marked (value : String) : String :=
  "\x1b[33m" ++ value ++ "\x1b[0m"

/-- A word of the program as messages set it off. -/
def literal (word : String) : String :=
  "\x1b[1m" ++ word ++ "\x1b[0m"

end ModelIdl.Terminal
