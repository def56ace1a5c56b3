import UiMarkup.Assoc

namespace UiMarkup

inductive ValueKind
  | size | int | opacity | color | bool | align | baseDirection | gradientDir | gradient
  | textAlign | textDecoration | borderSides | blendMode | blurQuality | layout | flexFlow
  | flexPlace | gridPlace | font | image | gridTracks
deriving DecidableEq, Repr, Inhabited

inductive StyleProp
  | width | minWidth | maxWidth | height | minHeight | maxHeight | length | x | y | align
  | radius | radialOffset | padTop | padBottom | padLeft | padRight | padRow | padColumn
  | padRadial | marginTop | marginBottom | marginLeft | marginRight | baseDir | clipCorner
  | bgOpa | bgColor | bgGradDir | bgGradColor | bgMainStop | bgGradStop | bgGrad | bgImageSrc
  | bgImageTiled | bgImageRecolor | bgImageRecolorOpa | borderColor | borderWidth | borderOpa
  | borderSide | borderPost | outlineColor | outlineWidth | outlineOpa | outlinePad
  | shadowWidth | shadowColor | shadowOffsetX | shadowOffsetY | shadowSpread | shadowOpa
  | textColor | textFont | textOpa | textAlign | textLetterSpace | textLineSpace | textDecor
  | imageOpa | imageRecolor | imageRecolorOpa | lineColor | lineOpa | lineWidth | lineDashWidth
  | lineDashGap | lineRounded | arcColor | arcOpa | arcWidth | arcRounded | arcImageSrc | opa
  | opaLayered | colorFilterOpa | animDuration | blendMode | transformWidth | transformHeight
  | translateX | translateY | translateRadial | transformScaleX | transformScaleY
  | transformRotation | transformPivotX | transformPivotY | transformSkewX | transformSkewY
  | bitmapMaskSrc | rotarySensitivity | recolor | recolorOpa | blurRadius | blurBackdrop
  | blurQuality | layout | flexFlow | flexGrow | flexMainPlace | flexCrossPlace | flexTrackPlace
  | gridColumnAlign | gridRowAlign | gridColumnDscArray | gridRowDscArray | gridCellColumnPos
  | gridCellColumnSpan | gridCellXAlign | gridCellRowPos | gridCellRowSpan | gridCellYAlign
deriving DecidableEq, Repr, Inhabited

namespace StyleProp

def all : List StyleProp := [
  .width, .minWidth, .maxWidth, .height, .minHeight, .maxHeight, .length, .x, .y, .align, .radius,
  .radialOffset, .padTop, .padBottom, .padLeft, .padRight, .padRow, .padColumn, .padRadial,
  .marginTop, .marginBottom, .marginLeft, .marginRight, .baseDir, .clipCorner, .bgOpa, .bgColor,
  .bgGradDir, .bgGradColor, .bgMainStop, .bgGradStop, .bgGrad, .bgImageSrc, .bgImageTiled,
  .bgImageRecolor, .bgImageRecolorOpa, .borderColor, .borderWidth, .borderOpa, .borderSide,
  .borderPost, .outlineColor, .outlineWidth, .outlineOpa, .outlinePad, .shadowWidth, .shadowColor,
  .shadowOffsetX, .shadowOffsetY, .shadowSpread, .shadowOpa, .textColor, .textFont, .textOpa,
  .textAlign, .textLetterSpace, .textLineSpace, .textDecor, .imageOpa, .imageRecolor,
  .imageRecolorOpa, .lineColor, .lineOpa, .lineWidth, .lineDashWidth, .lineDashGap, .lineRounded,
  .arcColor, .arcOpa, .arcWidth, .arcRounded, .arcImageSrc, .opa, .opaLayered, .colorFilterOpa,
  .animDuration, .blendMode, .transformWidth, .transformHeight, .translateX, .translateY,
  .translateRadial, .transformScaleX, .transformScaleY, .transformRotation, .transformPivotX,
  .transformPivotY, .transformSkewX, .transformSkewY, .bitmapMaskSrc, .rotarySensitivity,
  .recolor, .recolorOpa, .blurRadius, .blurBackdrop, .blurQuality, .layout, .flexFlow, .flexGrow,
  .flexMainPlace, .flexCrossPlace, .flexTrackPlace, .gridColumnAlign, .gridRowAlign,
  .gridColumnDscArray, .gridRowDscArray, .gridCellColumnPos, .gridCellColumnSpan, .gridCellXAlign,
  .gridCellRowPos, .gridCellRowSpan, .gridCellYAlign]

def name : StyleProp → String
  | .width              => "width"
  | .minWidth           => "min_width"
  | .maxWidth           => "max_width"
  | .height             => "height"
  | .minHeight          => "min_height"
  | .maxHeight          => "max_height"
  | .length             => "length"
  | .x                  => "x"
  | .y                  => "y"
  | .align              => "align"
  | .radius             => "radius"
  | .radialOffset       => "radial_offset"
  | .padTop             => "pad_top"
  | .padBottom          => "pad_bottom"
  | .padLeft            => "pad_left"
  | .padRight           => "pad_right"
  | .padRow             => "pad_row"
  | .padColumn          => "pad_column"
  | .padRadial          => "pad_radial"
  | .marginTop          => "margin_top"
  | .marginBottom       => "margin_bottom"
  | .marginLeft         => "margin_left"
  | .marginRight        => "margin_right"
  | .baseDir            => "base_dir"
  | .clipCorner         => "clip_corner"
  | .bgOpa              => "bg_opa"
  | .bgColor            => "bg_color"
  | .bgGradDir          => "bg_grad_dir"
  | .bgGradColor        => "bg_grad_color"
  | .bgMainStop         => "bg_main_stop"
  | .bgGradStop         => "bg_grad_stop"
  | .bgGrad             => "bg_grad"
  | .bgImageSrc         => "bg_image_src"
  | .bgImageTiled       => "bg_image_tiled"
  | .bgImageRecolor     => "bg_image_recolor"
  | .bgImageRecolorOpa  => "bg_image_recolor_opa"
  | .borderColor        => "border_color"
  | .borderWidth        => "border_width"
  | .borderOpa          => "border_opa"
  | .borderSide         => "border_side"
  | .borderPost         => "border_post"
  | .outlineColor       => "outline_color"
  | .outlineWidth       => "outline_width"
  | .outlineOpa         => "outline_opa"
  | .outlinePad         => "outline_pad"
  | .shadowWidth        => "shadow_width"
  | .shadowColor        => "shadow_color"
  | .shadowOffsetX      => "shadow_offset_x"
  | .shadowOffsetY      => "shadow_offset_y"
  | .shadowSpread       => "shadow_spread"
  | .shadowOpa          => "shadow_opa"
  | .textColor          => "text_color"
  | .textFont           => "text_font"
  | .textOpa            => "text_opa"
  | .textAlign          => "text_align"
  | .textLetterSpace    => "text_letter_space"
  | .textLineSpace      => "text_line_space"
  | .textDecor          => "text_decor"
  | .imageOpa           => "image_opa"
  | .imageRecolor       => "image_recolor"
  | .imageRecolorOpa    => "image_recolor_opa"
  | .lineColor          => "line_color"
  | .lineOpa            => "line_opa"
  | .lineWidth          => "line_width"
  | .lineDashWidth      => "line_dash_width"
  | .lineDashGap        => "line_dash_gap"
  | .lineRounded        => "line_rounded"
  | .arcColor           => "arc_color"
  | .arcOpa             => "arc_opa"
  | .arcWidth           => "arc_width"
  | .arcRounded         => "arc_rounded"
  | .arcImageSrc        => "arc_image_src"
  | .opa                => "opa"
  | .opaLayered         => "opa_layered"
  | .colorFilterOpa     => "color_filter_opa"
  | .animDuration       => "anim_duration"
  | .blendMode          => "blend_mode"
  | .transformWidth     => "transform_width"
  | .transformHeight    => "transform_height"
  | .translateX         => "translate_x"
  | .translateY         => "translate_y"
  | .translateRadial    => "translate_radial"
  | .transformScaleX    => "transform_scale_x"
  | .transformScaleY    => "transform_scale_y"
  | .transformRotation  => "transform_rotation"
  | .transformPivotX    => "transform_pivot_x"
  | .transformPivotY    => "transform_pivot_y"
  | .transformSkewX     => "transform_skew_x"
  | .transformSkewY     => "transform_skew_y"
  | .bitmapMaskSrc      => "bitmap_mask_src"
  | .rotarySensitivity  => "rotary_sensitivity"
  | .recolor            => "recolor"
  | .recolorOpa         => "recolor_opa"
  | .blurRadius         => "blur_radius"
  | .blurBackdrop       => "blur_backdrop"
  | .blurQuality        => "blur_quality"
  | .layout             => "layout"
  | .flexFlow           => "flex_flow"
  | .flexGrow           => "flex_grow"
  | .flexMainPlace      => "flex_main_place"
  | .flexCrossPlace     => "flex_cross_place"
  | .flexTrackPlace     => "flex_track_place"
  | .gridColumnAlign    => "grid_column_align"
  | .gridRowAlign       => "grid_row_align"
  | .gridColumnDscArray => "grid_column_dsc_array"
  | .gridRowDscArray    => "grid_row_dsc_array"
  | .gridCellColumnPos  => "grid_cell_column_pos"
  | .gridCellColumnSpan => "grid_cell_column_span"
  | .gridCellXAlign     => "grid_cell_x_align"
  | .gridCellRowPos     => "grid_cell_row_pos"
  | .gridCellRowSpan    => "grid_cell_row_span"
  | .gridCellYAlign     => "grid_cell_y_align"

def kind : StyleProp → ValueKind
  | .width              => .size
  | .minWidth           => .size
  | .maxWidth           => .size
  | .height             => .size
  | .minHeight          => .size
  | .maxHeight          => .size
  | .length             => .size
  | .x                  => .size
  | .y                  => .size
  | .align              => .align
  | .radius             => .size
  | .radialOffset       => .int
  | .padTop             => .int
  | .padBottom          => .int
  | .padLeft            => .int
  | .padRight           => .int
  | .padRow             => .int
  | .padColumn          => .int
  | .padRadial          => .int
  | .marginTop          => .int
  | .marginBottom       => .int
  | .marginLeft         => .int
  | .marginRight        => .int
  | .baseDir            => .baseDirection
  | .clipCorner         => .bool
  | .bgOpa              => .opacity
  | .bgColor            => .color
  | .bgGradDir          => .gradientDir
  | .bgGradColor        => .color
  | .bgMainStop         => .int
  | .bgGradStop         => .int
  | .bgGrad             => .gradient
  | .bgImageSrc         => .image
  | .bgImageTiled       => .bool
  | .bgImageRecolor     => .color
  | .bgImageRecolorOpa  => .opacity
  | .borderColor        => .color
  | .borderWidth        => .int
  | .borderOpa          => .opacity
  | .borderSide         => .borderSides
  | .borderPost         => .bool
  | .outlineColor       => .color
  | .outlineWidth       => .int
  | .outlineOpa         => .opacity
  | .outlinePad         => .int
  | .shadowWidth        => .int
  | .shadowColor        => .color
  | .shadowOffsetX      => .int
  | .shadowOffsetY      => .int
  | .shadowSpread       => .int
  | .shadowOpa          => .opacity
  | .textColor          => .color
  | .textFont           => .font
  | .textOpa            => .opacity
  | .textAlign          => .textAlign
  | .textLetterSpace    => .int
  | .textLineSpace      => .int
  | .textDecor          => .textDecoration
  | .imageOpa           => .opacity
  | .imageRecolor       => .color
  | .imageRecolorOpa    => .opacity
  | .lineColor          => .color
  | .lineOpa            => .opacity
  | .lineWidth          => .int
  | .lineDashWidth      => .int
  | .lineDashGap        => .int
  | .lineRounded        => .bool
  | .arcColor           => .color
  | .arcOpa             => .opacity
  | .arcWidth           => .int
  | .arcRounded         => .bool
  | .arcImageSrc        => .image
  | .opa                => .opacity
  | .opaLayered         => .opacity
  | .colorFilterOpa     => .opacity
  | .animDuration       => .int
  | .blendMode          => .blendMode
  | .transformWidth     => .int
  | .transformHeight    => .int
  | .translateX         => .int
  | .translateY         => .int
  | .translateRadial    => .int
  | .transformScaleX    => .int
  | .transformScaleY    => .int
  | .transformRotation  => .int
  | .transformPivotX    => .int
  | .transformPivotY    => .int
  | .transformSkewX     => .int
  | .transformSkewY     => .int
  | .bitmapMaskSrc      => .image
  | .rotarySensitivity  => .int
  | .recolor            => .color
  | .recolorOpa         => .opacity
  | .blurRadius         => .int
  | .blurBackdrop       => .bool
  | .blurQuality        => .blurQuality
  | .layout             => .layout
  | .flexFlow           => .flexFlow
  | .flexGrow           => .int
  | .flexMainPlace      => .flexPlace
  | .flexCrossPlace     => .flexPlace
  | .flexTrackPlace     => .flexPlace
  | .gridColumnAlign    => .gridPlace
  | .gridRowAlign       => .gridPlace
  | .gridColumnDscArray => .gridTracks
  | .gridRowDscArray    => .gridTracks
  | .gridCellColumnPos  => .int
  | .gridCellColumnSpan => .int
  | .gridCellXAlign     => .gridPlace
  | .gridCellRowPos     => .int
  | .gridCellRowSpan    => .int
  | .gridCellYAlign     => .gridPlace

def ofName? (n : String) : Option StyleProp :=
  all.find? (name · == n)

def shorthands : Assoc String (List StyleProp) := [
  ("pad_all",    [.padTop, .padBottom, .padLeft, .padRight]),
  ("pad_hor",    [.padLeft, .padRight]),
  ("pad_ver",    [.padTop, .padBottom]),
  ("pad_gap",    [.padColumn, .padRow]),
  ("margin_all", [.marginTop, .marginBottom, .marginLeft, .marginRight]),
  ("margin_hor", [.marginLeft, .marginRight]),
  ("margin_ver", [.marginTop, .marginBottom])]

def targets? (n : String) : Option (List StyleProp) :=
  (Assoc.get? shorthands n).or ((ofName? n).map ([·]))

theorem mem_all (p : StyleProp) : p ∈ all := by
  cases p <;> decide

theorem ofName?_name (p : StyleProp) : ofName? p.name = some p := by
  have hall : ∀ p ∈ all, ofName? p.name = some p := by decide +kernel
  exact hall p p.mem_all

theorem ofName?_eq_some_iff {name : String} {p : StyleProp} :
    ofName? name = some p ↔ p.name = name := by
  constructor
  case mp  => exact fun h => by simpa using List.find?_some h
  case mpr => exact fun h => h ▸ ofName?_name p

-- No shorthand takes the place of a property's own name.
theorem get?_shorthands_name (p : StyleProp) : Assoc.get? shorthands p.name = none := by
  have hall : ∀ p ∈ all, Assoc.get? shorthands p.name = none := by decide +kernel
  exact hall p p.mem_all

theorem targets?_of_ofName? {name : String} {p : StyleProp} (h : ofName? name = some p) :
    targets? name = some [p] := by
  have hshort : Assoc.get? shorthands name = none :=
    ofName?_eq_some_iff.mp h ▸ p.get?_shorthands_name
  simp [targets?, hshort, h]

end StyleProp

end UiMarkup
