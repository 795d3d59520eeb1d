import QueryDesk.Proofs.Json.Grammar
import QueryDesk.Proofs.Number.Overflow
import QueryDesk.Proofs.Store.Finite

/-!
# The numerals of a text

Every double in a value that was read is the value of a numeral in the text
(`isNumberOf_of_readUnmarked`), as long as the names of non-finite numbers are refused. A numeral is
never read as `nan`, but it is read as an infinity from the threshold on
(`isWrittenIn_of_isNumberOf`): the names are refused and the numerals are not.
-/

namespace QueryDesk.Json

/-! ## The doubles in a value -/

mutual

/-- The doubles in a value, at any depth. -/
def doubles : Json → List Double
  | double x => [x]
  | arr items => itemDoubles items
  | obj members => memberDoubles members
  | _ => []

def itemDoubles : List Json → List Double
  | [] => []
  | item :: rest => item.doubles ++ itemDoubles rest

def memberDoubles : List (Text × Json) → List Double
  | [] => []
  | (_, value) :: rest => value.doubles ++ memberDoubles rest

end

theorem mem_memberDoubles {members : List (Text × Json)} {x : Double} :
    x ∈ memberDoubles members ↔ ∃ pair ∈ members, x ∈ pair.2.doubles := by
  induction members with
  | nil => simp [memberDoubles]
  | cons pair rest ih => obtain ⟨name, value⟩ := pair; simp [memberDoubles, ih]

mutual

/-- A value is finite if the doubles in it are. -/
theorem isFinite_iff_doubles (v : Json) :
    v.isFinite = true ↔ ∀ x ∈ v.doubles, x.isFinite = true := by
  cases v with
  | double x => simp [isFinite, doubles]
  | arr items => exact allFinite_iff_itemDoubles items
  | obj members => exact membersFinite_iff_memberDoubles members
  | _ => simp [isFinite, doubles]

theorem allFinite_iff_itemDoubles (items : List Json) :
    allFinite items = true ↔ ∀ x ∈ itemDoubles items, x.isFinite = true := by
  cases items with
  | nil => simp [allFinite, itemDoubles]
  | cons item rest =>
    rw [allFinite, itemDoubles, Bool.and_eq_true, List.forall_mem_append, isFinite_iff_doubles,
      allFinite_iff_itemDoubles]

theorem membersFinite_iff_memberDoubles (members : List (Text × Json)) :
    membersFinite members = true ↔ ∀ x ∈ memberDoubles members, x.isFinite = true := by
  cases members with
  | nil => simp [membersFinite, memberDoubles]
  | cons pair rest =>
    rw [membersFinite, memberDoubles, Bool.and_eq_true, List.forall_mem_append,
      isFinite_iff_doubles, membersFinite_iff_memberDoubles]

end

/-- Joining repeated names adds no doubles. -/
theorem mem_memberDoubles_of_ofPairs {pairs : List (Text × Json)} {x : Double}
    (member : x ∈ memberDoubles (Members.ofPairs pairs)) : x ∈ memberDoubles pairs := by
  obtain ⟨pair, kept, inside⟩ := mem_memberDoubles.mp member
  obtain ⟨pair', written, same⟩ := exists_of_mem_ofPairs kept
  exact mem_memberDoubles.mpr ⟨pair', written, same ▸ inside⟩

/-- The doubles in what a stretch of text stands for. -/
def Form.doubles : Form → List Double
  | value v => v.doubles
  | elements items => itemDoubles items
  | member _ v => v.doubles
  | members pairs => memberDoubles pairs

/-! ## Numerals -/

namespace NumberText

/-- The number that all digits make, without the point. -/
def digits (n : NumberText) : Nat :=
  Numeral.ofDigits (n.whole ++ n.fraction)

/-- The power of ten that the digits are scaled by. -/
def scale (n : NumberText) : Int :=
  n.exponent.getD 0 - n.fraction.length

/-- The magnitude of a number as it is written. -/
def magnitude (n : NumberText) : ℚ :=
  n.digits * 10 ^ n.scale

/-- The double nearest to the number. -/
def double (n : NumberText) : Double :=
  Double.ofDecimal n.negative n.digits n.scale

/-- A number is read as a whole number or as the nearest double. -/
theorem value_cases {n : NumberText} {v : Json} (value : n.value = .ok v) :
    (∃ k, v = .int k) ∨ v = .double n.double := by
  unfold NumberText.value at value
  split at value
  · split at value <;> cases value
    exact .inl ⟨_, rfl⟩
  · cases value
    exact .inr rfl

/-- The number is the whole of a numeral in the text. -/
def StandsIn (n : NumberText) (text : List Letter) : Prop :=
  ∃ numeral, numeral <:+: text ∧ number? numeral = some (n, [])

end NumberText

/-- The double is the value of a numeral that stands in the text. -/
def IsNumberOf (text : List Letter) (x : Double) : Prop :=
  ∃ n : NumberText, n.StandsIn text ∧ n.double = x

theorem IsNumberOf.mono {text text' : List Letter} {x : Double} (written : IsNumberOf text x)
    (part : text <:+: text') : IsNumberOf text' x := by
  obtain ⟨n, ⟨numeral, inside, whole⟩, value⟩ := written
  exact ⟨n, ⟨numeral, inside.trans part, whole⟩, value⟩

/-- Doubles that each are the value of a numeral are the values of numerals in their order. -/
theorem exists_numerals {text : List Letter} {xs : List Double}
    (each : ∀ x ∈ xs, IsNumberOf text x) :
    ∃ numerals : List NumberText, (∀ n ∈ numerals, n.StandsIn text) ∧
      xs = numerals.map NumberText.double := by
  induction xs with
  | nil => exact ⟨[], List.forall_mem_nil _, rfl⟩
  | cons x rest ih =>
    obtain ⟨⟨n, stands, rfl⟩, later⟩ := List.forall_mem_cons.mp each
    obtain ⟨numerals, others, rfl⟩ := ih later
    exact ⟨n :: numerals, List.forall_mem_cons.mpr ⟨stands, others⟩, rfl⟩

/-- The doubles of the value are read from numerals of the text. None of them is `nan`, and all are
finite exactly if each numeral is below the threshold. -/
structure IsWrittenIn (text : List Letter) (v : Json) : Prop where
  number : ∀ x ∈ v.doubles, x ≠ .nan
  written : ∃ numerals : List NumberText, (∀ n ∈ numerals, n.StandsIn text) ∧
    v.doubles = numerals.map NumberText.double ∧
    (v.isFinite = true ↔ ∀ n ∈ numerals, n.magnitude < Double.overflowThreshold)

theorem isWrittenIn_of_isNumberOf {text : List Letter} {v : Json}
    (each : ∀ x ∈ v.doubles, IsNumberOf text x) : v.IsWrittenIn text := by
  obtain ⟨numerals, stand, doubles⟩ := exists_numerals each
  refine ⟨?_, numerals, stand, doubles, ?_⟩
  · intro x member
    obtain ⟨n, -, rfl⟩ := each x member
    exact Double.ofDecimal_ne_nan _ _ _
  · rw [isFinite_iff_doubles, doubles, List.forall_mem_map]
    exact forall₂_congr fun n _ => Double.isFinite_ofDecimal_iff _ _ _

/-- A scalar is one of the named values, or the value of a numeral. -/
theorem scalar_cases {text : List Letter} {v : Json}
    (whole : scalar .refused text = .ok (v, [])) :
    v ∈ names.map Prod.snd ∨ ∃ n, number? text = some (n, []) ∧ n.value = .ok v := by
  rw [scalar] at whole
  split at whole
  case h_1 name value rest named =>
    cases whole
    obtain ⟨listed, -⟩ := mem_of_named? named
    exact .inl (List.mem_map.mpr ⟨_, listed, rfl⟩)
  case h_2 noName =>
    split at whole
    case h_1 => cases whole
    case h_2 noNonFinite =>
      split at whole
      case h_1 n rest number =>
        cases valued : n.value with
        | error stop =>
          rw [valued] at whole
          cases whole
        | ok value =>
          rw [valued] at whole
          cases whole
          exact .inr ⟨n, number, valued⟩
      case h_2 => cases whole

/-- A scalar that is a double is spelled by a numeral. -/
theorem isNumberOf_of_scalar {text : List Letter} {v : Json}
    (whole : scalar .refused text = .ok (v, [])) : ∀ x ∈ v.doubles, IsNumberOf text x := by
  intro x member
  rcases scalar_cases whole with named | ⟨n, number, valued⟩
  · simp only [names, List.map_cons, List.map_nil, List.mem_cons, List.not_mem_nil,
      or_false] at named
    rcases named with rfl | rfl | rfl <;> cases member
  · rcases n.value_cases valued with ⟨k, rfl⟩ | rfl
    · cases member
    · exact ⟨n, ⟨text, List.infix_rfl, number⟩, (List.mem_singleton.mp member).symm⟩

/-! ## Reading -/

/-- The doubles of a stretch of text are written in it. -/
theorem isNumberOf_of_spells {form : Form} {text : List Letter}
    (spelled : Spells .refused form text) : ∀ x ∈ form.doubles, IsNumberOf text x := by
  -- what stands between brackets, and each item, is a part of the whole stretch
  have part : ∀ before inner after : List Letter, inner <:+: before ++ inner ++ after :=
    fun before inner after => ⟨before, after, rfl⟩
  induction spelled with
  | scalar whole => exact isNumberOf_of_scalar whole
  | str inside => exact fun x member => nomatch member
  | emptyArr blank => exact fun x member => nomatch member
  | emptyObj blank => exact fun x member => nomatch member
  | @arr spaces text items blank inside ih =>
    intro x member
    exact (ih x member).mono (by simpa using part (.char '[' :: spaces) text [.char ']'])
  | @obj spaces text pairs blank inside ih =>
    intro x member
    exact (ih x (mem_memberDoubles_of_ofPairs member)).mono
      (by simpa using part (.char '\x7b' :: spaces) text [.char '\x7d'])
  | @lastElement v text spaces first blank ih =>
    intro x member
    replace member : x ∈ v.doubles ++ [] := member
    rw [List.append_nil] at member
    exact (ih x member).mono (part [] text spaces)
  | @nextElement v text spaces spaces' more items first blank blank' rest ihFirst ihRest =>
    intro x member
    rcases List.mem_append.mp member with here | later
    · exact (ihFirst x here).mono (part [] text _)
    · exact (ihRest x later).mono
        (by simpa using part (text ++ spaces ++ .char ',' :: spaces') more [])
  | @member items v body spaces spaces' text name blank blank' under ih =>
    intro x member
    exact (ih x member).mono
      (by simpa using
        part (.char '\x22' :: body ++ .char '\x22' :: (spaces ++ .char ':' :: spaces')) text [])
  | @lastMember name v text spaces first blank ih =>
    intro x member
    replace member : x ∈ v.doubles ++ [] := member
    rw [List.append_nil] at member
    exact (ih x member).mono (part [] text spaces)
  | @nextMember name v text spaces spaces' more pairs first blank blank' rest ihFirst ihRest =>
    intro x member
    rcases List.mem_append.mp member with here | later
    · exact (ihFirst x here).mono (part [] text _)
    · exact (ihRest x later).mono
        (by simpa using part (text ++ spaces ++ .char ',' :: spaces') more [])

/-- The doubles of a value that was read are written in the text. -/
theorem isNumberOf_of_readUnmarked {s : List Letter} {v : Json}
    (found : readUnmarked .refused s = .ok v) : ∀ x ∈ v.doubles, IsNumberOf s x := by
  obtain ⟨before, text, after, -, spelled, -, rfl⟩ := spells_of_readUnmarked found
  intro x member
  refine (isNumberOf_of_spells spelled x member).mono ⟨before, after, ?_⟩
  rw [List.append_assoc]

end QueryDesk.Json
