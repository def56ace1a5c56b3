import UiMarkup.Widget.Processor

namespace UiMarkup

abbrev WidgetTable := Assoc String Processor

namespace WidgetTable

def widgets : WidgetTable :=
  (Vocabulary.values (α := WidgetKind)).map fun kind => (Vocabulary.token kind, .widget kind)

def pieces : WidgetTable := [
  ("dropdown-list",            .dropdownList),
  ("calendar-header_arrow",    .calendarHeader),
  ("calendar-header_dropdown", .calendarHeader),
  ("tabview-tab_bar",          .tabBar),
  ("tabview-tab",              .tab),
  ("tabview-tab_button",       .tabButton),
  ("table-column",             .tableColumn),
  ("table-cell",               .tableCell),
  ("scale-section",            .scaleSection),
  ("spangroup-span",           .span),
  ("imagebutton-src_left",     .imageSlice .left),
  ("imagebutton-src_mid",      .imageSlice .mid),
  ("imagebutton-src_right",    .imageSlice .right)]

def modifiers : WidgetTable := [
  ("style",                    .modifier .style),
  ("remove_style",             .modifier .removeStyle),
  ("remove_style_all",         .modifier .removeStyles),
  ("event_cb",                 .modifier .callback),
  ("subject_toggle_event",     .modifier .toggle),
  ("subject_set_int_event",    .modifier (.assign .int)),
  ("subject_set_float_event",  .modifier (.assign .float)),
  ("subject_set_string_event", .modifier (.assign .str)),
  ("subject_increment_event",  .modifier .increment),
  ("bind_style",               .modifier .bindStyle),
  ("screen_load_event",        .modifier .loadScreen),
  ("play_timeline_event",      .modifier .playTimeline),
  ("bind_flag_if_eq",          .modifier (.bindFlag .eq)),
  ("bind_flag_if_not_eq",      .modifier (.bindFlag .notEq)),
  ("bind_flag_if_gt",          .modifier (.bindFlag .gt)),
  ("bind_flag_if_ge",          .modifier (.bindFlag .ge)),
  ("bind_flag_if_lt",          .modifier (.bindFlag .lt)),
  ("bind_flag_if_le",          .modifier (.bindFlag .le)),
  ("bind_state_if_eq",         .modifier (.bindState .eq)),
  ("bind_state_if_not_eq",     .modifier (.bindState .notEq)),
  ("bind_state_if_gt",         .modifier (.bindState .gt)),
  ("bind_state_if_ge",         .modifier (.bindState .ge)),
  ("bind_state_if_lt",         .modifier (.bindState .lt)),
  ("bind_state_if_le",         .modifier (.bindState .le))]

def builtin : WidgetTable :=
  widgets ++ pieces ++ modifiers

def get? (t : WidgetTable) (tag : String) : Option Processor :=
  Assoc.get? t tag

def set (t : WidgetTable) (tag : String) (p : Processor) : WidgetTable :=
  Assoc.set t tag p

end WidgetTable

end UiMarkup
