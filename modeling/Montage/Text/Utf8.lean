/-!
Bytes as text: UTF-8 read strictly or with replacement characters, and lines.
-/

namespace Montage.Text

/-- The bytes of a text in UTF-8. -/
def encodeUtf8 (text : String) : List UInt8 :=
  text.toUTF8.toList

/-- What the first bytes of an encoded text hold. -/
inductive Utf8Step where
  /-- A character and how many further bytes it takes. -/
  | character (value : Char) (further : Nat)
  /-- Bytes that start no character: the first and this many after it. -/
  | malformed (further : Nat)

/-- The six low bits of a byte that continues a character, if these are within the bounds. -/
private def continuation? (low high : Nat) : List UInt8 → Option Nat
  | byte :: _ => if low ≤ byte.toNat && byte.toNat ≤ high then some (byte.toNat % 64) else none
  | [] => none

/-- Reads one character whose first byte is given. A character cut short or out of range ends
before the first byte that cannot belong to it. -/
def utf8Step (first : UInt8) (rest : List UInt8) : Utf8Step :=
  let lead := first.toNat
  if lead < 0x80 then .character (Char.ofNat lead) 0
  else if lead < 0xC2 || lead > 0xF4 then .malformed 0
  else
    let low := if lead = 0xE0 then 0xA0 else if lead = 0xF0 then 0x90 else 0x80
    let high := if lead = 0xED then 0x9F else if lead = 0xF4 then 0x8F else 0xBF
    match continuation? low high rest with
    | none => .malformed 0
    | some second =>
      if lead < 0xE0 then .character (Char.ofNat (lead % 32 * 64 + second)) 1
      else
        match continuation? 0x80 0xBF (rest.drop 1) with
        | none => .malformed 1
        | some third =>
          if lead < 0xF0 then
            .character (Char.ofNat ((lead % 16 * 64 + second) * 64 + third)) 2
          else
            match continuation? 0x80 0xBF (rest.drop 2) with
            | none => .malformed 2
            | some fourth =>
              .character (Char.ofNat (((lead % 8 * 64 + second) * 64 + third) * 64 + fourth)) 3

/-- The characters of an encoded text, `none` standing for each malformed sequence. -/
def utf8Characters : List UInt8 → List (Option Char)
  | [] => []
  | first :: rest =>
    match utf8Step first rest with
    | .character value further => some value :: utf8Characters (rest.drop further)
    | .malformed further => none :: utf8Characters (rest.drop further)
  termination_by bytes => bytes.length
  decreasing_by all_goals simp only [List.length_drop, List.length_cons]; omega

/-- The text that the bytes encode, if they are well formed. -/
def decodeUtf8? (bytes : List UInt8) : Option String :=
  ((utf8Characters bytes).mapM id).map String.ofList

/-- The text that the bytes encode, a replacement character for each malformed sequence. -/
def decodeUtf8 (bytes : List UInt8) : String :=
  String.ofList ((utf8Characters bytes).map (·.getD '\ufffd'))

/-- Every line end as a single newline. -/
def unifyNewlines : List Char → List Char
  | [] => []
  | '\r' :: '\n' :: rest => '\n' :: unifyNewlines rest
  | '\r' :: rest => '\n' :: unifyNewlines rest
  | character :: rest => character :: unifyNewlines rest

/-- A character that ends a line of a report. -/
def endsLine (character : Char) : Bool :=
  let code := character.toNat
  (10 ≤ code && code ≤ 13) || (0x1C ≤ code && code ≤ 0x1E) || code == 0x85 || code == 0x2028 ||
    code == 0x2029

/-- The first line of a report, without its end; none of an empty report. -/
def firstLine? (text : String) : Option String :=
  if text.isEmpty then none
  else some (String.ofList (text.toList.takeWhile (!endsLine ·)))

end Montage.Text
