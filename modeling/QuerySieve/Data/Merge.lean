import QuerySieve.Data.Basic

/-!
# Data/Merge — laying one record over another

`Fields.override base top` has every field of `top`, and those of `base` that `top` leaves alone.
Where both hold a record under one key, the two records are laid over each other in turn; everywhere
else the field of `top` stands.
-/

namespace QuerySieve

mutual

/-- The value that stands where `top` is laid over `base`. -/
def Data.override (base : Data) : Data → Data
  | .record top =>
    match base with
    | .record fields => .record (Fields.override fields top)
    | _ => .record top
  | top => top

/-- **The fields of `base` with those of `top` laid over them**, one after the other. -/
def Fields.override (base : Fields) : List (Key × Data) → Fields
  | [] => base
  | (key, value) :: rest =>
    Fields.override
      (Fields.put base key (match Fields.get? base key with
        | some old => old.override value
        | none => value))
      rest

end

end QuerySieve
