import TenantTables.Proofs.Flattening

/-!
# What is read behind a write

A write goes down from segment to segment. Where there is no object to go down
into it puts one, and the scalar that was there is gone. Nobody can tell from a
path that is apart: it parts from the written one at some segment, so either it
never reaches the scalar, or it would have had to lead through it, and then it
read nothing before and reads nothing in the new object.

Reading tries the whole path as a key before it goes down. That this makes no
difference needs keys without dots, and a write leaves them so.
-/

namespace TenantTables.Path

open Json (Value Object)

variable {target : Object} {path other : String} {v : Value}

theorem uncut_of_dotFree {o : Object}
    (h : ∀ key ∈ o.keys, '.' ∉ key.toList) : Uncut o :=
  fun key hkey => split_of_dotFree (h key hkey)

/-- A path that leads through the written one reads on in the value. -/
theorem get?_set_of_below (h : Uncut target) {steps : List String}
    (hsteps : Text.split '.' other = Text.split '.' path ++ steps) (v : Value) :
    get? (set target path v) other = getAt v steps := by
  rw [get?_eq_getAt (uncut_set h path v), hsteps]
  exact getAt_setAt_append target (Text.split_ne_nil '.' path) v steps

/-- A path that the written one leads through reads an object. -/
theorem get?_set_of_above (h : Uncut target)
    (habove : Text.split '.' other <+: Text.split '.' path)
    (hne : Text.split '.' other ≠ Text.split '.' path) (v : Value) :
    ∃ fields, get? (set target path v) other = some (.obj fields) := by
  rw [get?_eq_getAt (uncut_set h path v)]
  exact getAt_setAt_of_passed target habove hne v

theorem get?_set_of_apart (h : Uncut target) (hapart : Apart path other)
    (v : Value) :
    get? (set target path v) other = get? target other := by
  rw [Apart, Meets, not_or] at hapart
  rw [get?_eq_getAt (uncut_set h path v), get?_eq_getAt h]
  exact getAt_setAt_of_apart target hapart.1 hapart.2 v

/-- Into an object whose keys have no dots a value may be written at any
path. The path then reads the value, paths through it read inside of the
value, paths on the way to it read objects, and every other path reads what
it read before. -/
theorem write_is_read_at_its_path_alone
    (h : ∀ key ∈ target.keys, '.' ∉ key.toList) (path : String) (v : Value) :
    get? (set target path v) path = some v ∧
      (∀ other steps, Text.split '.' other = Text.split '.' path ++ steps →
        get? (set target path v) other = getAt v steps) ∧
      (∀ other, Text.split '.' other <+: Text.split '.' path → other ≠ path →
        ∃ fields, get? (set target path v) other = some (.obj fields)) ∧
      ∀ other, ¬ Text.split '.' path <+: Text.split '.' other →
        ¬ Text.split '.' other <+: Text.split '.' path →
          get? (set target path v) other = get? target other := by
  have huncut := uncut_of_dotFree h
  refine ⟨?_, fun other steps hsteps => ?_, fun other habove hne => ?_,
    fun other hbelow habove => ?_⟩
  · exact get?_set_of_below huncut (List.append_nil _).symm v
  · exact get?_set_of_below huncut hsteps v
  · exact get?_set_of_above huncut habove
      (fun heq => hne (Text.split_injective '.' heq)) v
  · exact get?_set_of_apart huncut (not_or.2 ⟨hbelow, habove⟩) v

/-- An order with a text where the path of a size leads through. -/
def plainOrder : Object := [("uid", .str "a"), ("data", .str "none")]

/-- The size of the order is written in the place of the text. A note beside it
is not there before or after, and the identifier stays. -/
theorem size_takes_the_place_of_a_text :
    (∀ key ∈ plainOrder.keys, '.' ∉ key.toList) ∧
      set plainOrder "data.size.cm" (.int 4) =
        [("uid", .str "a"), ("data", .obj [("size", .obj [("cm", .int 4)])])] ∧
      get? (set plainOrder "data.size.cm" (.int 4)) "data.size.cm" =
        some (.int 4) ∧
      get? plainOrder "data" = some (.str "none") ∧
      (∃ fields, get? (set plainOrder "data.size.cm" (.int 4)) "data" =
        some (.obj fields)) ∧
      get? (set plainOrder "data.size.cm" (.int 4)) "data.note" = none ∧
      get? (set plainOrder "data.size.cm" (.int 4)) "uid" =
        some (.str "a") := by
  have hkeys : ∀ key ∈ plainOrder.keys, '.' ∉ key.toList := by decide
  obtain ⟨hself, -, habove, hapart⟩ :=
    write_is_read_at_its_path_alone hkeys "data.size.cm" (.int 4)
  exact ⟨hkeys, rfl, hself, rfl, habove "data" (by decide) (by decide),
    hapart "data.note" (by decide) (by decide),
    hapart "uid" (by decide) (by decide)⟩

end TenantTables.Path
