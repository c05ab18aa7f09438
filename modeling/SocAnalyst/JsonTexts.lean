import Mathlib.Data.List.Lex
import SocAnalyst.Builtins
import SocAnalyst.Dicts
import SocAnalyst.PrefixCodes

/-!
# Texts in JSON

`json.dumps` of an object of texts: ASCII, keys in order, no blanks.
-/
namespace SocAnalyst.JsonTexts
open SocAnalyst.Builtins SocAnalyst.Dicts SocAnalyst.PrefixCodes

/-- A code point that has an encoding of its own: no half of a surrogate pair. -/
def Scalar (c : Nat) : Prop := c < 0x110000 ∧ ¬ (0xd800 ≤ c ∧ c < 0xe000)

instance : DecidablePred Scalar := fun _ => inferInstanceAs (Decidable (_ ∧ _))

/-! ### Escapes -/

def hexDigit (d : Nat) : Nat := if d < 10 then 48 + d else 87 + d
/-- `{0:04x}`. -/
def hex4 (n : Nat) : Text := [hexDigit (n / 4096 % 16),hexDigit (n / 256 % 16),hexDigit (n / 16 % 16),hexDigit (n % 16)]
def escapeUnit (n : Nat) : Text := 92 :: 117 :: hex4 n

/-- The escapes with a letter of their own. -/
def shortEscape : Nat → Option Nat
  | 92 => some 92
  | 34 => some 34
  | 8 => some 98
  | 12 => some 102
  | 10 => some 110
  | 13 => some 114
  | 9 => some 116
  | _ => none

/-- What is written for one character. -/
def escapeChar (c : Nat) : Text :=
  match shortEscape c with
  | some letter => [92,letter]
  | none =>
    if 32 ≤ c ∧ c < 127 then [c]
    else if c < 0x10000 then escapeUnit c
    else escapeUnit (0xd800 + (c - 0x10000) / 1024) ++ escapeUnit (0xdc00 + (c - 0x10000) % 1024)

/-- A text in quotes. -/
def quote (text : Text) : Text := 34 :: (text.flatMap escapeChar ++ [34])

/-! ### Reading an escape back -/

def hexValue (c : Nat) : Nat := if c < 58 then c - 48 else c - 87
def hexValue4 (a b c d : Nat) : Nat := hexValue a * 4096 + hexValue b * 256 + hexValue c * 16 + hexValue d

def longEscape : Nat → Nat
  | 98 => 8
  | 102 => 12
  | 110 => 10
  | 114 => 13
  | 116 => 9
  | letter => letter

/-- The first character of a text, and the rest. -/
def readChar : Text → Option (Nat × Text)
  | [] => none
  | 92 :: 117 :: a :: b :: c :: d :: rest =>
    let unit := hexValue4 a b c d
    if 0xd800 ≤ unit ∧ unit < 0xdc00 then
      match rest with
      | 92 :: 117 :: a' :: b' :: c' :: d' :: rest' => some (0x10000 + (unit - 0xd800) * 1024 + (hexValue4 a' b' c' d' - 0xdc00),rest')
      | _ => none
    else some (unit,rest)
  | 92 :: letter :: rest => some (longEscape letter,rest)
  | c :: rest => some (c,rest)

-- its equations stand before the lemmas that rewrite with them
attribute [local simp] readChar

theorem hexValue_digit {d : Nat} (small : d < 16) : hexValue (hexDigit d) = d := by
  unfold hexValue hexDigit
  split_ifs <;> omega

theorem hexValue4_hex4 {n : Nat} (small : n < 0x10000) :
    hexValue4 (hexDigit (n / 4096 % 16)) (hexDigit (n / 256 % 16)) (hexDigit (n / 16 % 16)) (hexDigit (n % 16)) = n := by
  rw [hexValue4,hexValue_digit (Nat.mod_lt _ (by omega)),hexValue_digit (Nat.mod_lt _ (by omega)),
    hexValue_digit (Nat.mod_lt _ (by omega)),hexValue_digit (Nat.mod_lt _ (by omega))]
  omega

theorem readChar_unit {n : Nat} (small : n < 0x10000) (plain : ¬ (0xd800 ≤ n ∧ n < 0xdc00)) (rest : Text) :
    readChar (escapeUnit n ++ rest) = some (n,rest) := by
  show readChar (92 :: 117 :: hexDigit _ :: hexDigit _ :: hexDigit _ :: hexDigit _ :: rest) = _
  simp only [readChar,hexValue4_hex4 small,if_neg plain]

theorem readChar_pair {high low : Nat} (first : 0xd800 ≤ high ∧ high < 0xdc00) (second : low < 0x10000) (rest : Text) :
    readChar (escapeUnit high ++ escapeUnit low ++ rest) = some (0x10000 + (high - 0xd800) * 1024 + (low - 0xdc00),rest) := by
  show readChar (92 :: 117 :: hexDigit _ :: hexDigit _ :: hexDigit _ :: hexDigit _ ::
    92 :: 117 :: hexDigit _ :: hexDigit _ :: hexDigit _ :: hexDigit _ :: rest) = _
  simp only [readChar,hexValue4_hex4 (show high < 0x10000 by omega),if_pos first,hexValue4_hex4 second]

theorem readChar_plain {c : Nat} (mark : c ≠ 92) (rest : Text) : readChar (c :: rest) = some (c,rest) := by
  unfold readChar
  split
  · next none => cases none
  · next same => exact absurd (List.cons.inj same).1 mark
  · next same => exact absurd (List.cons.inj same).1 mark
  · next same =>
    obtain ⟨rfl,rfl⟩ := List.cons.inj same
    rfl

/-- What is written for a character is read as that character. -/
theorem readChar_escape {c : Nat} (scalar : Scalar c) (rest : Text) : readChar (escapeChar c ++ rest) = some (c,rest) := by
  unfold escapeChar
  split
  · next letter short =>
    unfold shortEscape at short
    split at short <;> cases short <;> rfl
  · next long =>
    split_ifs with plain small
    · have mark : c ≠ 92 := by
        rintro rfl
        cases long
      exact readChar_plain mark rest
    · exact readChar_unit small (fun half => scalar.2 ⟨half.1,by omega⟩) rest
    · have top := scalar.1
      have value : 0x10000 + (0xd800 + (c - 0x10000) / 1024 - 0xd800) * 1024 + (0xdc00 + (c - 0x10000) % 1024 - 0xdc00) = c := by omega
      rw [readChar_pair (by omega) (by omega),value]

/-! ### Objects -/

/-- A text without halves of surrogate pairs. -/
def Encodable (text : Text) : Prop := ∀ c ∈ text, Scalar c

instance : DecidablePred Encodable := fun text => inferInstanceAs (Decidable (∀ c ∈ text, Scalar c))

/-- A text or `null`. -/
def nullable (value : Option Text) : Text := value.elim (lit "null") quote

def dumpsMember (pair : Text × Option Text) : Text := quote pair.1 ++ [58] ++ nullable pair.2

/-- The members of an object in the order given. -/
def dumpsObject : List (Text × Option Text) → Text
  | [] => lit "{}"
  | first :: rest => 123 :: dumpsMember first ++ ((rest.flatMap fun pair => 44 :: dumpsMember pair) ++ [125])

/-- `json.dumps(payload, sort_keys=True, separators=(",", ":"))`. -/
def canonicalJson (payload : List (Text × Option Text)) : Text := dumpsObject (sortedBy Prod.fst payload)

theorem escapeChar_head {c : Nat} : ∃ first rest, escapeChar c = first :: rest ∧ first ≠ 34 := by
  unfold escapeChar
  split
  · exact ⟨92,_,rfl,by decide⟩
  · next long =>
    split_ifs with plain small
    · refine ⟨c,[],rfl,?_⟩
      rintro rfl
      cases long
    · exact ⟨92,_,rfl,by decide⟩
    · exact ⟨92,_,rfl,by decide⟩

theorem prefixFree_escape : PrefixFree Scalar escapeChar := prefixFree_of_read fun _ scalar rest => readChar_escape scalar rest

theorem prefixFree_quote : PrefixFree Encodable quote := by
  have apart : ∀ c, Scalar c → ∀ rest rest', escapeChar c ++ rest ≠ [34] ++ rest' := by
    intro c _ rest rest' same
    obtain ⟨first,more,shape,other⟩ := @escapeChar_head c
    rw [shape] at same
    exact other (List.cons.inj same).1
  have body := prefixFree_escape.list [34] apart
  intro text text' here there rest rest' same
  exact body text text' here there rest rest' (List.cons.inj same).2

theorem prefixFree_nullable : PrefixFree (fun value : Option Text => ∀ text ∈ value, Encodable text) nullable :=
  prefixFree_quote.option (lit "null") fun _ _ _ _ same => absurd (List.cons.inj same).1 (by decide)

/-- The key and the value have encodings of their own. -/
def EncodablePair (pair : Text × Option Text) : Prop := Encodable pair.1 ∧ ∀ text ∈ pair.2, Encodable text

instance : DecidablePred EncodablePair := fun pair => inferInstanceAs (Decidable (Encodable pair.1 ∧ ∀ text ∈ pair.2, Encodable text))

theorem prefixFree_member : PrefixFree EncodablePair dumpsMember := prefixFree_quote.pair prefixFree_nullable [] [58]

theorem prefixFree_members : PrefixFree (fun pairs : List (Text × Option Text) => ∀ pair ∈ pairs, EncodablePair pair)
    fun pairs => (pairs.flatMap fun pair => 44 :: dumpsMember pair) ++ [125] := by
  have each : PrefixFree EncodablePair fun pair => 44 :: dumpsMember pair := prefixFree_quote.pair prefixFree_nullable [44] [58]
  exact each.list [125] fun _ _ _ _ same => absurd (List.cons.inj same).1 (by decide)

/-- Different objects are written differently. -/
theorem dumpsObject_inj {pairs pairs' : List (Text × Option Text)} (here : ∀ pair ∈ pairs, EncodablePair pair)
    (there : ∀ pair ∈ pairs', EncodablePair pair) (same : dumpsObject pairs = dumpsObject pairs') : pairs = pairs' := by
  rcases pairs with _ | ⟨first,rest⟩ <;> rcases pairs' with _ | ⟨first',rest'⟩
  · rfl
  · exact absurd (List.cons.inj (List.cons.inj same).2).1 (by decide)
  · exact absurd (List.cons.inj (List.cons.inj same).2).1 (by decide)
  · obtain ⟨rfl,more⟩ := prefixFree_member first first' (here first List.mem_cons_self) (there first' List.mem_cons_self) _ _
      (List.cons.inj same).2
    have free := prefixFree_members.injective (fun pair member => here pair (List.mem_cons_of_mem _ member))
      (fun pair member => there pair (List.mem_cons_of_mem _ member)) more
    rw [free]

/-- Objects with the same keys in the same places are told apart by their canonical texts. -/
theorem canonicalJson_inj {payload payload' : List (Text × Option Text)} (here : ∀ pair ∈ payload, EncodablePair pair)
    (there : ∀ pair ∈ payload', EncodablePair pair) (keys : payload.map Prod.fst = payload'.map Prod.fst)
    (once : (payload.map Prod.fst).Nodup) (same : canonicalJson payload = canonicalJson payload') : payload = payload' := by
  have sorted := dumpsObject_inj (fun pair member => here pair ((mem_sortedBy _ _ _).mp member))
    (fun pair member => there pair ((mem_sortedBy _ _ _).mp member)) same
  have long : payload.length = payload'.length := by simpa using congrArg List.length keys
  refine List.ext_getElem long fun n short short' => ?_
  have member : payload[n] ∈ payload' := by
    rw [← mem_sortedBy Prod.fst,← sorted,mem_sortedBy]
    exact List.getElem_mem short
  have key : payload[n].1 = payload'[n].1 := by
    have at_n := congrArg (fun keys => keys[n]?) keys
    simpa [short,short'] using at_n
  rw [keys] at once
  exact List.inj_on_of_nodup_map once member (List.getElem_mem short') key

/-! ### ASCII -/

/-- Only ASCII is written, so that the bytes of the encoded text are its characters. -/
def Ascii (text : Text) : Prop := ∀ c ∈ text, c < 128

instance : DecidablePred Ascii := fun text => inferInstanceAs (Decidable (∀ c ∈ text, c < 128))

@[simp] theorem ascii_nil : Ascii [] := fun _ none => absurd none List.not_mem_nil
@[simp] theorem ascii_cons {c : Nat} {rest : Text} : Ascii (c :: rest) ↔ c < 128 ∧ Ascii rest := List.forall_mem_cons
@[simp] theorem ascii_append {text rest : Text} : Ascii (text ++ rest) ↔ Ascii text ∧ Ascii rest := List.forall_mem_append
theorem ascii_flatMap {α : Type} {f : α → Text} (each : ∀ x, Ascii (f x)) (xs : List α) : Ascii (xs.flatMap f) := by
  intro c member
  obtain ⟨x,_,there⟩ := List.mem_flatMap.mp member
  exact each x c there

theorem hexDigit_ascii (n : Nat) : hexDigit (n % 16) < 128 := by
  unfold hexDigit
  split_ifs <;> omega

theorem ascii_escape (c : Nat) : Ascii (escapeChar c) := by
  have unit : ∀ n, Ascii (escapeUnit n) := fun n => by simp [escapeUnit,hex4,hexDigit_ascii]
  unfold escapeChar
  split
  · next letter short =>
    unfold shortEscape at short
    split at short <;> cases short <;> simp
  · split_ifs with plain
    · simp only [ascii_cons,ascii_nil,and_true]
      omega
    · exact unit c
    · exact ascii_append.mpr ⟨unit _,unit _⟩

theorem ascii_quote (text : Text) : Ascii (quote text) := by
  simp [quote,ascii_flatMap ascii_escape]

theorem ascii_member (pair : Text × Option Text) : Ascii (dumpsMember pair) := by
  rcases pair with ⟨key,_ | value⟩
  · simpa [dumpsMember,nullable,ascii_quote] using (by decide : Ascii (lit "null"))
  · simp [dumpsMember,nullable,ascii_quote]

theorem ascii_canonicalJson (payload : List (Text × Option Text)) : Ascii (canonicalJson payload) := by
  unfold canonicalJson
  cases sortedBy Prod.fst payload with
  | nil => decide
  | cons first rest => simp [dumpsObject,ascii_member,ascii_flatMap]

end SocAnalyst.JsonTexts
