/-
The standard fonts, which are there without being registered.
-/
namespace PageTemplate.Font

/-- The names of the standard fonts. -/
def standardNames : List String := [
  "Courier", "Courier-Bold", "Courier-Oblique", "Courier-BoldOblique",
  "Helvetica", "Helvetica-Bold", "Helvetica-Oblique", "Helvetica-BoldOblique",
  "Times-Roman", "Times-Bold", "Times-Italic", "Times-BoldItalic", "Symbol", "ZapfDingbats"]

end PageTemplate.Font
