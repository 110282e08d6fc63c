import EntityForge.Json.Fault
import EntityForge.Json.Writer
import EntityForge.Proofs.Entries
import EntityForge.Proofs.Text.Numeral
import EntityForge.Proofs.Text.Utf8

/-! # What is written

A value is portable if a document can hold it as it is: its strings have no surrogates that stand
alone, its integers are not too long to be read, and the names of its objects differ.  The pieces of
a portable value hold characters only, and no carriage return (`arePlain_pieces`); so they have
bytes, and reading them as lines changes nothing.
-/

namespace EntityForge

/-- A value that a document can hold as it is. -/
inductive Value.IsPortable : Value → Prop
  | null : IsPortable .null
  | bool (b : Bool) : IsPortable (.bool b)
  | int {n : Int} (hDigits : (Text.ofNat n.natAbs).length ≤ Json.maxIntegerDigits) :
      IsPortable (.int n)
  | float (x : Binary64) : IsPortable (.float x)
  | string {t : Text} (hText : Utf8.IsEncodable t) : IsPortable (.string t)
  | list {items : List Value} (hItems : ∀ item ∈ items, IsPortable item) : IsPortable (.list items)
  | object {members : Entries Value} (hNodup : members.names.Nodup)
      (hNames : ∀ name ∈ members.names, Utf8.IsEncodable name)
      (hValues : ∀ name value, (name, value) ∈ members → IsPortable value) :
      IsPortable (.object members)

/-! ### Plain texts -/

/-- A text of characters without carriage returns. -/
def Text.IsPlain (t : Text) : Prop := ∀ p ∈ t, ∃ c : Char, p = .char c ∧ c ≠ '\r'

namespace Text

theorem IsPlain.isEncodable {t : Text} (h : IsPlain t) : Utf8.IsEncodable t := by
  intro p hp
  obtain ⟨c, hc, -⟩ := h p hp
  exact ⟨c, hc⟩

theorem isPlain_append {s t : Text} (hs : IsPlain s) (ht : IsPlain t) : IsPlain (s ++ t) := by
  intro p hp
  rcases List.mem_append.mp hp with hp | hp
  · exact hs p hp
  · exact ht p hp

theorem isPlain_nil : IsPlain [] := by
  intro p hp
  cases hp

theorem isPlain_cons {c : Char} {t : Text} (hc : c ≠ '\r') (ht : IsPlain t) :
    IsPlain (.char c :: t) := by
  intro p hp
  rcases List.mem_cons.mp hp with rfl | hp
  · exact ⟨c, rfl, hc⟩
  · exact ht p hp

theorem isPlain_map {cs : List Char} (h : '\r' ∉ cs) : IsPlain (cs.map .char) := by
  intro p hp
  obtain ⟨c, hc, rfl⟩ := List.mem_map.mp hp
  exact ⟨c, rfl, fun hReturn => h (hReturn ▸ hc)⟩

theorem isPlain_replicate {c : Char} (hc : c ≠ '\r') (n : Nat) :
    IsPlain (List.replicate n (.char c)) := by
  intro p hp
  exact ⟨c, List.eq_of_mem_replicate hp, hc⟩

theorem isPlain_ite {p : Prop} [Decidable p] {s t : Text} (hs : p → IsPlain s)
    (ht : ¬ p → IsPlain t) : IsPlain (if p then s else t) := by
  by_cases h : p
  · rw [if_pos h]
    exact hs h
  · rw [if_neg h]
    exact ht h

theorem isPlain_of_sublist {s t : Text} (h : s.Sublist t) (ht : IsPlain t) : IsPlain s :=
  fun p hp => ht p (h.subset hp)

theorem isPlain_flatten {ts : List Text} (h : ∀ t ∈ ts, IsPlain t) : IsPlain ts.flatten := by
  intro p hp
  obtain ⟨t, ht, hp⟩ := List.mem_flatten.mp hp
  exact h t ht p hp

theorem exists_char_of_isDigit {p : CodePoint} (h : p.isDigit = true) :
    ∃ c : Char, p = .char c ∧ c ≠ '\r' := by
  cases p with
  | char c =>
      refine ⟨c, rfl, ?_⟩
      rintro rfl
      cases h
  | surrogate offset =>
      rw [CodePoint.isDigit, Bool.and_eq_true] at h
      have hLast : 0xD800 + offset.val ≤ 0x39 := of_decide_eq_true h.2
      omega

theorem isPlain_ofNat (n : Nat) : IsPlain (ofNat n) := by
  intro p hp
  exact exists_char_of_isDigit (isDigit_of_mem_ofNat p hp)

theorem isPlain_ofInt (n : Int) : IsPlain (ofInt n) := by
  rw [ofInt]
  split
  · exact isPlain_cons (by decide) (isPlain_ofNat _)
  · exact isPlain_ofNat _

theorem unifyNewlines_of_isPlain {t : Text} (h : IsPlain t) : t.unifyNewlines = t := by
  induction t with
  | nil => rfl
  | cons p rest ih =>
      obtain ⟨c, rfl, hc⟩ := h p List.mem_cons_self
      have hRest : IsPlain rest := fun q hq => h q (List.mem_cons_of_mem _ hq)
      rw [unifyNewlines, ih hRest]
      all_goals simp [hc]

end Text

namespace Json

open Text

/-! ### Pieces -/

theorem isPlain_ofNatHex {n : Nat} (h : n < 32) : IsPlain (Text.ofNatHex 4 n) := by
  have hDigits : ∀ n < 32, '\r' ∉ Nat.toDigits 16 n := by decide
  exact isPlain_append (isPlain_replicate (by decide) _) (isPlain_map (hDigits n h))

/-- A carriage return is spelled as an escape, so no spelling has one. -/
theorem isPlain_escapeCode (c : Char) : IsPlain (escapeCode (.char c)) := by
  by_cases hReturn : c = '\r'
  · subst hReturn
    exact isPlain_map (by decide : '\r' ∉ ['\\', 'r'])
  · have hOne : IsPlain [.char c] := isPlain_cons hReturn isPlain_nil
    have hTwo : IsPlain [.char '\\', .char c] := isPlain_cons (by decide) hOne
    refine isPlain_ite (fun _ => hTwo) fun _ => ?_
    refine isPlain_ite (fun _ => isPlain_map (by decide)) fun _ => ?_
    refine isPlain_ite (fun _ => isPlain_map (by decide)) fun _ => ?_
    refine isPlain_ite (fun _ => isPlain_map (by decide)) fun _ => ?_
    refine isPlain_ite (fun _ => isPlain_map (by decide)) fun _ => ?_
    refine isPlain_ite (fun _ => isPlain_map (by decide)) fun _ => ?_
    refine isPlain_ite (fun hControl => ?_) fun _ => hOne
    exact isPlain_append (isPlain_map (by decide)) (isPlain_ofNatHex (Nat.lt_succ_of_le hControl))

theorem isPlain_plainDigits {digits : Text} (h : IsPlain digits) (lead : Int) :
    IsPlain (Binary64.plainDigits digits lead) := by
  have hZeros (n : Nat) : IsPlain (List.replicate n (.char '0')) :=
    isPlain_replicate (by decide) n
  have hBack (n : Nat) : IsPlain (if (digits.drop n).isEmpty then text "0" else digits.drop n) :=
    isPlain_ite (fun _ => isPlain_map (by decide))
      fun _ => isPlain_of_sublist (List.drop_sublist _ _) h
  refine isPlain_ite (fun _ => ?_) fun _ => ?_
  · exact isPlain_append (isPlain_append (isPlain_map (by decide)) (hZeros _)) h
  · have hFront := isPlain_of_sublist (List.take_sublist (lead.toNat + 1) digits) h
    exact isPlain_append (isPlain_append (isPlain_append hFront (hZeros _))
      (isPlain_map (by decide))) (hBack _)

theorem isPlain_scientificDigits {digits : Text} (h : IsPlain digits) (lead : Int) :
    IsPlain (Binary64.scientificDigits floatLayout digits lead) := by
  have hFirst := isPlain_of_sublist (List.take_sublist 1 digits) h
  have hRest : IsPlain (if digits.length ≤ 1 then [] else .char '.' :: digits.drop 1) :=
    isPlain_ite (fun _ => isPlain_nil)
      fun _ => isPlain_cons (by decide) (isPlain_of_sublist (List.drop_sublist 1 digits) h)
  have hSign : IsPlain (if lead < 0 then text "-" else text "+") :=
    isPlain_ite (fun _ => isPlain_map (by decide)) fun _ => isPlain_map (by decide)
  have hMark : IsPlain (text "e") := isPlain_map (by decide)
  have hZeros (n : Nat) : IsPlain (List.replicate n (.char '0')) :=
    isPlain_replicate (by decide) n
  exact isPlain_append (isPlain_append (isPlain_append (isPlain_append
    (isPlain_append hFirst hRest) hMark) hSign) (hZeros _)) (isPlain_ofNat _)

/-- The numeral of a floating-point number is made of digits, signs, a point and an exponent. -/
theorem isPlain_numeral (x : Binary64) : IsPlain (x.numeral floatLayout) := by
  have hSign (negative : Bool) : IsPlain (if negative then text "-" else []) :=
    isPlain_ite (fun _ => isPlain_map (by decide)) fun _ => isPlain_nil
  unfold Binary64.numeral
  split
  · exact isPlain_map (by decide)
  · next negative => exact isPlain_append (hSign negative) (isPlain_map (by decide))
  · next negative _ => exact isPlain_append (hSign negative) (isPlain_map (by decide))
  · next negative mantissa exponent _ =>
      have hDigits := isPlain_ofNat (Binary64.shortest mantissa exponent).digits
      exact isPlain_append (hSign negative) (isPlain_ite
        (fun _ => isPlain_plainDigits hDigits _) fun _ => isPlain_scientificDigits hDigits _)

theorem isPlain_writeString {t : Text} (h : Utf8.IsEncodable t) : IsPlain (writeString t) := by
  have hCodes : IsPlain (t.flatMap escapeCode) := by
    intro q hq
    obtain ⟨p, hp, hq⟩ := List.mem_flatMap.mp hq
    obtain ⟨c, rfl⟩ := h p hp
    exact isPlain_escapeCode c q hq
  have hEnd : IsPlain [.char '"'] := isPlain_cons (by decide) isPlain_nil
  exact isPlain_cons (by decide) (isPlain_append hCodes hEnd)

theorem isPlain_newLine (level : Nat) : IsPlain (newLine level) :=
  isPlain_cons (by decide) (isPlain_replicate (by decide) _)

/-- All pieces of a list of pieces are plain. -/
def ArePlain (ts : List Text) : Prop := ∀ t ∈ ts, IsPlain t

theorem arePlain_append {ts us : List Text} (hts : ArePlain ts) (hus : ArePlain us) :
    ArePlain (ts ++ us) := by
  intro t ht
  rcases List.mem_append.mp ht with ht | ht
  · exact hts t ht
  · exact hus t ht

theorem arePlain_cons {t : Text} {ts : List Text} (ht : IsPlain t) (hts : ArePlain ts) :
    ArePlain (t :: ts) := by
  intro u hu
  rcases List.mem_cons.mp hu with rfl | hu
  · exact ht
  · exact hts u hu

theorem arePlain_nil : ArePlain [] := by
  intro t ht
  cases ht

theorem arePlain_singleton {t : Text} (ht : IsPlain t) : ArePlain [t] :=
  arePlain_cons ht arePlain_nil

theorem arePlain_glue {mark : Text} (hMark : IsPlain mark) (item : Value) {ts : List Text}
    (hts : ArePlain ts) : ArePlain (glue mark item ts) := by
  have hJoined : ArePlain [mark ++ ts.flatten] :=
    arePlain_singleton (isPlain_append hMark (isPlain_flatten hts))
  cases item with
  | list items => exact arePlain_cons hMark hts
  | object members => exact arePlain_cons hMark hts
  | _ => exact hJoined

theorem arePlain_itemPieces {items : List Value} (level : Nat) {mark : Char} (hMark : mark ≠ '\r')
    (h : ∀ item ∈ items, ArePlain (pieces level item)) :
    ArePlain (itemPieces level mark items) := by
  induction items generalizing mark with
  | nil => exact arePlain_nil
  | cons item rest ih =>
      have hBefore : IsPlain (.char mark :: newLine level) :=
        isPlain_cons hMark (isPlain_newLine level)
      have hRest := @ih ',' (by decide) fun other hOther =>
        h other (List.mem_cons_of_mem _ hOther)
      rw [itemPieces]
      exact arePlain_append (arePlain_glue hBefore item (h item List.mem_cons_self)) hRest

theorem arePlain_memberPieces {members : Entries Value} (level : Nat) {before : List Text}
    (hBefore : ArePlain before) (hNames : ∀ name ∈ members.names, Utf8.IsEncodable name)
    (hValues : ∀ name value, (name, value) ∈ members → ArePlain (pieces level value)) :
    ArePlain (memberPieces level before members) := by
  induction members generalizing before with
  | nil => exact arePlain_nil
  | cons member rest ih =>
      obtain ⟨name, value⟩ := member
      have hComma : ArePlain [.char ',' :: newLine level] :=
        arePlain_singleton (isPlain_cons (by decide) (isPlain_newLine level))
      have hRest := ih hComma (fun other hOther => hNames other (List.mem_cons_of_mem _ hOther))
        fun other value hOther => hValues other value (List.mem_cons_of_mem _ hOther)
      have hName : ArePlain [writeString name, text ": "] :=
        arePlain_cons (isPlain_writeString (hNames name List.mem_cons_self))
          (arePlain_singleton (isPlain_map (by decide)))
      have hValue := hValues name value List.mem_cons_self
      rw [memberPieces]
      exact arePlain_append (arePlain_append (arePlain_append hBefore hName) hValue) hRest

/-- The pieces of a portable value are plain. -/
theorem arePlain_pieces {value : Value} (h : value.IsPortable) (level : Nat) :
    ArePlain (pieces level value) := by
  induction h generalizing level with
  | null => exact arePlain_singleton (isPlain_map (by decide))
  | bool b => cases b <;> exact arePlain_singleton (isPlain_map (by decide))
  | int hDigits => exact arePlain_singleton (isPlain_ofInt _)
  | float x => exact arePlain_singleton (isPlain_numeral x)
  | string hText => exact arePlain_singleton (isPlain_writeString hText)
  | @list items hItems ih =>
      cases items with
      | nil => exact arePlain_singleton (isPlain_map (by decide))
      | cons item rest =>
          have hEnd : ArePlain [newLine level, text "]"] :=
            arePlain_cons (isPlain_newLine level) (arePlain_singleton (isPlain_map (by decide)))
          rw [pieces]
          · exact arePlain_append
              (arePlain_itemPieces (level + 1) (by decide) fun item hItem => ih item hItem _) hEnd
          · simp
  | @object members hNodup hNames hValues ih =>
      cases members with
      | nil => exact arePlain_singleton (isPlain_map (by decide))
      | cons member rest =>
          have hBegin : ArePlain [text "\x7b", newLine (level + 1)] :=
            arePlain_cons (isPlain_map (by decide)) (arePlain_singleton (isPlain_newLine _))
          have hEnd : ArePlain [newLine level, text "\x7d"] :=
            arePlain_cons (isPlain_newLine level) (arePlain_singleton (isPlain_map (by decide)))
          rw [pieces]
          · exact arePlain_append (arePlain_memberPieces (level + 1) hBegin hNames
              fun name value hMember => ih name value hMember _) hEnd
          · simp

theorem arePlain_keyedPieces {members : List (Key × Value)} {before : List Text}
    (hBefore : ArePlain before) (h : ∀ key value, (key, value) ∈ members →
      Utf8.IsEncodable key.spelled ∧ value.IsPortable) : ArePlain (keyedPieces before members) := by
  induction members generalizing before with
  | nil => exact arePlain_nil
  | cons member rest ih =>
      obtain ⟨key, value⟩ := member
      obtain ⟨hKey, hValue⟩ := h key value List.mem_cons_self
      have hComma : ArePlain [.char ',' :: newLine 1] :=
        arePlain_singleton (isPlain_cons (by decide) (isPlain_newLine 1))
      have hRest := ih hComma
        fun other value hOther => h other value (List.mem_cons_of_mem _ hOther)
      have hName : ArePlain [writeString key.spelled, text ": "] :=
        arePlain_cons (isPlain_writeString hKey) (arePlain_singleton (isPlain_map (by decide)))
      rw [keyedPieces]
      exact arePlain_append
        (arePlain_append (arePlain_append hBefore hName) (arePlain_pieces hValue 1)) hRest

/-- The pieces of a document of portable members are plain. -/
theorem arePlain_documentPieces {members : List (Key × Value)}
    (h : ∀ key value, (key, value) ∈ members →
      Utf8.IsEncodable key.spelled ∧ value.IsPortable) : ArePlain (documentPieces members) := by
  cases members with
  | nil => exact arePlain_singleton (isPlain_map (by decide))
  | cons member rest =>
      have hBegin : ArePlain [text "\x7b", newLine 1] :=
        arePlain_cons (isPlain_map (by decide)) (arePlain_singleton (isPlain_newLine 1))
      have hEnd : ArePlain [newLine 0, text "\x7d"] :=
        arePlain_cons (isPlain_newLine 0) (arePlain_singleton (isPlain_map (by decide)))
      exact arePlain_append (arePlain_keyedPieces hBegin h) hEnd

end Json

end EntityForge
