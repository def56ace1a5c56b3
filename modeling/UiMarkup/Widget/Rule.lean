import UiMarkup.Widget.ObjAttr

namespace UiMarkup

inductive Rule
  | prop (read : Attrs → String → Noted ObjProp)
  | image (wrap : ImageSource → ObjProp)
  | bind (binding : Attrs → Binding) (site : String)
  -- Does nothing by itself, but is read along with another attribute.
  | companion

namespace Rule

def edits (env : Env) (attrs : Attrs) (text : String) : Rule → Edits
  | .prop read         => (fun p => [.prop p]) <$> read attrs text
  | .image wrap        => (fun i => (i.map fun i => .prop (wrap i)).toList) <$> env.findImage text
  | .bind binding site => env.bind text (binding attrs) site
  | .companion         => pure []

def int (wrap : Int → ObjProp) : Rule :=
  .prop fun _ s => pure (wrap (Reading.int s))

def size (wrap : Coord → ObjProp) : Rule :=
  .prop fun _ s => pure (wrap (Reading.size s))

def str (wrap : String → ObjProp) : Rule :=
  .prop fun _ s => pure (wrap s)

def bool (wrap : Bool → ObjProp) : Rule :=
  .prop fun _ s => wrap <$> Reading.bool s

def color (wrap : Color → ObjProp) : Rule :=
  .prop fun _ s => wrap <$> Reading.color s

def token {α : Type} [Vocabulary α] [Inhabited α] (wrap : α → ObjProp) : Rule :=
  .prop fun _ s => wrap <$> Reading.token s

def animated (wrap : Int → Bool → ObjProp) (companion : String) : Rule :=
  .prop fun attrs s => wrap (Reading.int s) <$> Reading.boolAttr attrs companion

def bindValue (site : String) : Rule :=
  .bind (fun _ => .value) site

def ofRange (what : String) : Assoc String Rule := [
  ("value",                animated .value "value-animated"),
  ("value-animated",       .companion),
  ("start_value",          animated .startValue "start_value-animated"),
  ("start_value-animated", .companion),
  ("min_value",            int .minValue),
  ("max_value",            int .maxValue),
  ("mode",                 token .barMode),
  ("orientation",          token .orientation),
  ("bind_value",           bindValue (what ++ " bind_value"))]

def ofKind : WidgetKind → Assoc String Rule
  | .label => [
    ("text",          str .text),
    ("long_mode",     token .longMode),
    ("bind_text",     .bind (fun attrs => .text (attrs.get? "bind_text-fmt")) "label bind_text"),
    ("bind_text-fmt", .companion)]
  | .image => [
    ("src",      .image .src),
    ("rotation", int .rotation),
    ("scale",    int .imageScale),
    ("pivot_x",  size .pivotX),
    ("pivot_y",  size .pivotY)]
  | .arc => [
    ("start_angle",    int .startAngle),
    ("end_angle",      int .endAngle),
    ("bg_start_angle", int .bgStartAngle),
    ("bg_end_angle",   int .bgEndAngle),
    ("rotation",       int .rotation),
    ("mode",           token .arcMode),
    ("value",          int (.value · false)),
    ("min_value",      int .minValue),
    ("max_value",      int .maxValue),
    ("bind_value",     bindValue "arc bind_value")]
  | .bar => ofRange "bar"
  | .slider => ofRange "slider"
  | .textarea => [
    ("text",             str .text),
    ("placeholder_text", str .placeholderText),
    ("one_line",         bool .oneLine),
    ("password_mode",    bool .passwordMode),
    ("max_length",       int .maxLength),
    ("accepted_chars",   str .acceptedChars)]
  | .dropdown => [
    ("options",    str .options),
    ("text",       str .text),
    ("selected",   int .selected),
    ("symbol",     .image .symbol),
    ("bind_value", bindValue "dropdown bind_value")]
  | .spinner => [
    ("anim_duration", int .animDuration),
    ("arc_sweep",     int .arcSweep)]
  | .spinbox => [
    ("value",         int (.value · false)),
    ("rollover",      bool .rollover),
    ("digit_count",   int .digitCount),
    ("dec_point_pos", int .decPointPos),
    ("min_value",     int .minValue),
    ("max_value",     int .maxValue),
    ("step",          int .step),
    ("bind_value",    bindValue "spinbox bind_value")]
  | .calendar => [
    ("today_year",  int .todayYear),
    ("today_month", int .todayMonth),
    ("today_day",   int .todayDay),
    ("shown_year",  int .shownYear),
    ("shown_month", int .shownMonth)]
  | .tabview => [
    ("active",           int .active),
    ("tab_bar_position", token .tabBarPosition),
    ("tab_bar_size",     size .tabBarSize)]
  | .table => [
    ("column_count", int .columnCount),
    ("row_count",    int .rowCount)]
  | .scale => [
    ("mode",              token .scaleMode),
    ("total_tick_count",  int .totalTickCount),
    ("major_tick_every",  int .majorTickEvery),
    ("label_show",        bool .labelShow),
    ("post_draw",         bool .postDraw),
    ("draw_ticks_on_top", bool .drawTicksOnTop),
    ("min_value",         int .minValue),
    ("max_value",         int .maxValue),
    ("angle_range",       int .angleRange),
    ("rotation",          int .rotation)]
  | .spangroup => [
    ("overflow",  token .overflow),
    ("max_lines", int .maxLines),
    ("indent",    int .indent)]
  | .qrcode => [
    ("size",        int .qrSize),
    ("dark_color",  color .darkColor),
    ("light_color", color .lightColor)]
  | _ => []

-- The attributes that are applied once, in their first occurrence, after all others. The data of
-- a code are encoded when its size and colours are known.
def ofKindLast : WidgetKind → Assoc String Rule
  | .checkbox    => [("text", str .text)]
  | .switch      => [("orientation", token .orientation)]
  | .imagebutton => [("state", token .imageButtonState)]
  | .qrcode      => [("data", str .qrData)]
  | _            => []

end Rule

namespace WidgetKind

def accepts (kind : WidgetKind) (name : String) : Bool :=
  ObjAttr.accepts name || Assoc.contains (Rule.ofKind kind) name ||
  Assoc.contains (Rule.ofKindLast kind) name

def apply (kind : WidgetKind) (env : Env) (attrs : Attrs) : Edits := do
  let common ← ObjAttr.apply env attrs
  let own ← Noted.collect (fun (name, text) =>
    match Assoc.get? (Rule.ofKind kind) name with
    | some rule => rule.edits env attrs text
    | none      => pure []) attrs
  let last ← Noted.collect (fun (name, rule) =>
    match attrs.get? name with
    | some text => Rule.edits env attrs text rule
    | none      => pure []) (Rule.ofKindLast kind)
  return common ++ own ++ last

end WidgetKind

end UiMarkup
