import ViewLayers.Value.Key

/-!
# Laying one record over another

Entries on one side only are kept. Where both sides have a record the two are laid over each
other in turn; any other clash is won by the overlay. The keys of the base come first, in
their order, then the keys that only the overlay has.
-/

namespace ViewLayers

def Record.news (base overlay : Record) : Record :=
  overlay.filter fun e => !Entries.has base e.1

mutual

def Value.overlaid : Value → Value → Value
  | .record base, overlay =>
    match overlay with
    | .record entries => .record (Record.overlaidEntries base entries ++ Record.news base entries)
    | other => other
  | _, overlay => overlay

def Record.overlaidEntries : List (Value × Value) → List (Value × Value) → List (Value × Value)
  | [], _ => []
  | (k, v) :: rest, overlay =>
    let value := match Entries.get? overlay k with
      | some w => Value.overlaid v w
      | none => v
    (k, value) :: Record.overlaidEntries rest overlay

end

def Record.overlay (base overlay : Record) : Record :=
  Record.overlaidEntries base overlay ++ Record.news base overlay

end ViewLayers
