import StubLibc.Bytes
import StubLibc.Json.Document

/-!
# Compact documents stay on one line

A compact document holds no control character, whatever its strings hold: a string writes them as
escapes, and nothing else in the compact form is white space.  Its UTF-8 encoding therefore has no
byte below the space, in particular no line feed.
-/

namespace StubLibc

/-- No character of the text is a control character of ASCII. -/
def NoControl (text : List Char) : Prop := ∀ c ∈ text, 0x20 ≤ c.toNat

namespace NoControl

@[simp]
theorem nil : NoControl [] := by
  intro c hc
  cases hc

@[simp]
theorem cons_iff {c : Char} {text : List Char} :
    NoControl (c :: text) ↔ 0x20 ≤ c.toNat ∧ NoControl text :=
  List.forall_mem_cons

@[simp]
theorem append_iff {first second : List Char} :
    NoControl (first ++ second) ↔ NoControl first ∧ NoControl second :=
  List.forall_mem_append

theorem flatMap {α : Type} {items : List α} {write : α → List Char}
    (h : ∀ item ∈ items, NoControl (write item)) : NoControl (items.flatMap write) := by
  intro c hc
  obtain ⟨item, hitem, hc⟩ := List.mem_flatMap.mp hc
  exact h item hitem c hc

/-- Encoding keeps control bytes out: a character is encoded as itself or as bytes above ASCII. -/
theorem le_of_mem_ofText {text : List Char} (h : NoControl text) {byte : UInt8}
    (hbyte : byte ∈ Bytes.ofText (String.ofList text)) : 0x20 ≤ byte := by
  rw [Bytes.ofText, String.toList_ofList] at hbyte
  obtain ⟨c, hc, hbyte⟩ := List.mem_flatMap.mp hbyte
  have hlow : 0x20 ≤ c.val.toNat := h c hc
  have hhigh : c.val.toNat < 0x110000 := by
    rcases c.valid with h | h
    · exact Nat.lt_trans h (by decide)
    · exact h.2
  rw [UInt8.le_iff_toNat_le]
  change 0x20 ≤ byte.toNat
  unfold String.utf8EncodeChar at hbyte
  dsimp only at hbyte
  split at hbyte
  · simp only [List.mem_singleton] at hbyte
    subst hbyte
    rw [UInt8.toNat_ofNat']
    omega
  split at hbyte
  · simp only [List.mem_cons, List.not_mem_nil, or_false] at hbyte
    rcases hbyte with rfl | rfl <;> rw [UInt8.toNat_ofNat'] <;> omega
  split at hbyte
  · simp only [List.mem_cons, List.not_mem_nil, or_false] at hbyte
    rcases hbyte with rfl | rfl | rfl <;> rw [UInt8.toNat_ofNat'] <;> omega
  · simp only [List.mem_cons, List.not_mem_nil, or_false] at hbyte
    rcases hbyte with rfl | rfl | rfl | rfl <;> rw [UInt8.toNat_ofNat'] <;> omega

end NoControl

/-! ## Parts of a document -/

theorem Radix.le_toNat_digit (radix : Radix) {value : Nat} (h : value < radix.base) :
    0x20 ≤ (radix.digit value).toNat := by
  have hall : ∀ value < radix.base, 0x20 ≤ (radix.digit value).toNat := by
    cases radix <;> decide
  exact hall value h

theorem Numeral.noControl_digits (radix : Radix) (n : Nat) : NoControl (digits radix n) := by
  induction n using Nat.strongRecOn with
  | _ n ih =>
    have hbase := radix.two_le_base
    by_cases h : n < radix.base
    · rw [digits_of_lt h, NoControl.cons_iff]
      exact ⟨radix.le_toNat_digit h, .nil⟩
    · rw [digits_of_le (by omega), NoControl.append_iff, NoControl.cons_iff]
      have hlast := radix.le_toNat_digit (Nat.mod_lt n (by omega))
      exact ⟨ih _ (Nat.div_lt_self (by omega) (by omega)), hlast, .nil⟩

namespace Json

theorem noControl_escape (c : Char) : NoControl (escape c) := by
  have hbackslash : 0x20 ≤ '\\'.toNat := by decide
  have hletter : ∀ {letter : Char}, 0x20 ≤ letter.toNat → NoControl ['\\', letter] :=
    fun h ↦ NoControl.cons_iff.mpr ⟨hbackslash, NoControl.cons_iff.mpr ⟨h, .nil⟩⟩
  have hdigit : ∀ {value : Nat}, value < 16 → 0x20 ≤ (hexDigit value).toNat :=
    fun h ↦ Radix.hexLower.le_toNat_digit h
  unfold escape
  iterate 7
    split
    · exact hletter (by decide)
  split
  · simp only [NoControl.cons_iff, NoControl.nil, and_true]
    exact ⟨hbackslash, by decide, by decide, by decide, hdigit (by omega), hdigit (by omega)⟩
  · exact NoControl.cons_iff.mpr ⟨by omega, .nil⟩

theorem noControl_quote (value : String) : NoControl (quote value) := by
  have hbody := NoControl.flatMap fun c (_ : c ∈ value.toList) ↦ noControl_escape c
  simp [quote, hbody]

namespace Document

theorem commaSeparated_cons (part : List Char) (parts : List (List Char)) :
    commaSeparated (part :: parts) = part ++ parts.flatMap (',' :: ·) := by
  induction parts generalizing part with
  | nil => simp [commaSeparated]
  | cons next more ih =>
    have h := ih next
    unfold commaSeparated at h ⊢
    rw [List.intersperse_cons_cons, List.flatten_cons, List.flatten_cons, h, List.flatMap_cons]
    rfl

theorem noControl_commaSeparated {parts : List (List Char)}
    (h : ∀ part ∈ parts, NoControl part) : NoControl (commaSeparated parts) := by
  cases parts with
  | nil => exact .nil
  | cons part more =>
    rw [commaSeparated_cons, NoControl.append_iff]
    rw [List.forall_mem_cons] at h
    exact ⟨h.1, .flatMap fun part hpart ↦ NoControl.cons_iff.mpr ⟨by decide, h.2 part hpart⟩⟩

mutual

/-- A compact document has no control characters. -/
theorem noControl_compact : ∀ document : Document, NoControl document.compact
  | text value => noControl_quote value
  | natural value => Numeral.noControl_digits .decimal value
  | list items => by
    have hitems := noControl_commaSeparated (noControl_compactItems items)
    simp [compact, hitems]
  | object members => by
    have hmembers := noControl_commaSeparated (noControl_compactMembers members)
    simp [compact, hmembers]

theorem noControl_compactItems : ∀ items : List Document,
    ∀ part ∈ compactItems items, NoControl part
  | [] => by simp [compactItems]
  | item :: rest => by
    rw [compactItems, List.forall_mem_cons]
    exact ⟨noControl_compact item, noControl_compactItems rest⟩

theorem noControl_compactMembers : ∀ members : List (String × Document),
    ∀ part ∈ compactMembers members, NoControl part
  | [] => by simp [compactMembers]
  | (key, value) :: rest => by
    rw [compactMembers, List.forall_mem_cons]
    have hvalue := noControl_compact value
    exact ⟨by simp [noControl_quote, hvalue], noControl_compactMembers rest⟩

end

end Document

end Json

end StubLibc
