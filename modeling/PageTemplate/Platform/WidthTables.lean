/-
Advance widths of the standard fonts, in thousandths of the font size.

The fonts for text share one set of characters: U+0020 to U+007E, U+00A0 to
U+00FF, and the typographic characters that the pages of one byte a character
add to them. The two fonts of signs have sets of their own.
-/
namespace PageTemplate.Plain

/-- The widths of a font's characters: runs of consecutive characters, each with its first code. -/
abbrev WidthTable := List (Nat × List Nat)

/-- The typographic characters that the fonts for text have, in the order of their widths below. -/
def typographic : List Nat := [
  0x20AC, 0x201A, 0x0192, 0x201E, 0x2026, 0x2020, 0x2021, 0x02C6, 0x2030, 0x0160, 0x2039, 0x0152,
  0x017D, 0x2018, 0x2019, 0x201C, 0x201D, 0x2022, 0x2013, 0x2014, 0x02DC, 0x2122, 0x0161, 0x203A,
  0x0153, 0x017E, 0x0178]

/-- The table of a font for text, from the widths of its three groups of characters. -/
def textTable (basic latin extra : List Nat) : WidthTable :=
  (0x20, basic) :: (0xA0, latin) :: typographic.zipWith (fun code width => (code, [width])) extra

/-- Widths in Courier, where every character is as wide. -/
def courier : WidthTable :=
  textTable (List.replicate 95 600) (List.replicate 96 600) (List.replicate 27 600)

/-- Widths in Helvetica. -/
def helvetica : WidthTable := textTable
  [278, 278, 355, 556, 556, 889, 667, 191, 333, 333, 389, 584, 278, 333, 278, 278, 556, 556, 556,
    556, 556, 556, 556, 556, 556, 556, 278, 278, 584, 584, 584, 556, 1015, 667, 667, 722, 722,
    667, 611, 778, 722, 278, 500, 667, 556, 833, 722, 778, 667, 778, 722, 667, 611, 722, 667, 944,
    667, 667, 611, 278, 278, 278, 469, 556, 333, 556, 556, 500, 556, 556, 278, 556, 556, 222, 222,
    500, 222, 833, 556, 556, 556, 556, 333, 500, 278, 556, 500, 722, 500, 500, 500, 334, 260, 334,
    584]
  [278, 333, 556, 556, 556, 556, 260, 556, 333, 737, 370, 556, 584, 333, 737, 333, 400, 584, 333,
    333, 333, 556, 537, 278, 333, 333, 365, 556, 834, 834, 834, 611, 667, 667, 667, 667, 667, 667,
    1000, 722, 667, 667, 667, 667, 278, 278, 278, 278, 722, 722, 778, 778, 778, 778, 778, 584,
    778, 722, 722, 722, 722, 667, 667, 611, 556, 556, 556, 556, 556, 556, 889, 500, 556, 556, 556,
    556, 278, 278, 278, 278, 556, 556, 556, 556, 556, 556, 556, 584, 611, 556, 556, 556, 556, 500,
    556, 500]
  [556, 222, 556, 333, 1000, 556, 556, 333, 1000, 667, 333, 1000, 611, 222, 222, 333, 333, 350,
    556, 1000, 333, 1000, 500, 333, 944, 500, 667]

/-- Widths in Helvetica-Bold. -/
def helveticaBold : WidthTable := textTable
  [278, 333, 474, 556, 556, 889, 722, 238, 333, 333, 389, 584, 278, 333, 278, 278, 556, 556, 556,
    556, 556, 556, 556, 556, 556, 556, 333, 333, 584, 584, 584, 611, 975, 722, 722, 722, 722, 667,
    611, 778, 722, 278, 556, 722, 611, 833, 722, 778, 667, 778, 722, 667, 611, 722, 667, 944, 667,
    667, 611, 333, 278, 333, 584, 556, 333, 556, 611, 556, 611, 556, 333, 611, 611, 278, 278, 556,
    278, 889, 611, 611, 611, 611, 389, 556, 333, 611, 556, 778, 556, 556, 500, 389, 280, 389, 584]
  [278, 333, 556, 556, 556, 556, 280, 556, 333, 737, 370, 556, 584, 333, 737, 333, 400, 584, 333,
    333, 333, 611, 556, 278, 333, 333, 365, 556, 834, 834, 834, 611, 722, 722, 722, 722, 722, 722,
    1000, 722, 667, 667, 667, 667, 278, 278, 278, 278, 722, 722, 778, 778, 778, 778, 778, 584,
    778, 722, 722, 722, 722, 667, 667, 611, 556, 556, 556, 556, 556, 556, 889, 556, 556, 556, 556,
    556, 278, 278, 278, 278, 611, 611, 611, 611, 611, 611, 611, 584, 611, 611, 611, 611, 611, 556,
    611, 556]
  [556, 278, 556, 500, 1000, 556, 556, 333, 1000, 667, 333, 1000, 611, 278, 278, 500, 500, 350,
    556, 1000, 333, 1000, 556, 333, 944, 500, 667]

/-- Widths in Times-Roman. -/
def timesRoman : WidthTable := textTable
  [250, 333, 408, 500, 500, 833, 778, 180, 333, 333, 500, 564, 250, 333, 250, 278, 500, 500, 500,
    500, 500, 500, 500, 500, 500, 500, 278, 278, 564, 564, 564, 444, 921, 722, 667, 667, 722, 611,
    556, 722, 722, 333, 389, 722, 611, 889, 722, 722, 556, 722, 667, 556, 611, 722, 722, 944, 722,
    722, 611, 333, 278, 333, 469, 500, 333, 444, 500, 444, 500, 444, 333, 500, 500, 278, 278, 500,
    278, 778, 500, 500, 500, 500, 333, 389, 278, 500, 500, 722, 500, 500, 444, 480, 200, 480, 541]
  [250, 333, 500, 500, 500, 500, 200, 500, 333, 760, 276, 500, 564, 333, 760, 333, 400, 564, 300,
    300, 333, 500, 453, 250, 333, 300, 310, 500, 750, 750, 750, 444, 722, 722, 722, 722, 722, 722,
    889, 667, 611, 611, 611, 611, 333, 333, 333, 333, 722, 722, 722, 722, 722, 722, 722, 564, 722,
    722, 722, 722, 722, 722, 556, 500, 444, 444, 444, 444, 444, 444, 667, 444, 444, 444, 444, 444,
    278, 278, 278, 278, 500, 500, 500, 500, 500, 500, 500, 564, 500, 500, 500, 500, 500, 500, 500,
    500]
  [500, 333, 500, 444, 1000, 500, 500, 333, 1000, 556, 333, 889, 611, 333, 333, 444, 444, 350,
    500, 1000, 333, 980, 389, 333, 722, 444, 722]

/-- Widths in Times-Bold. -/
def timesBold : WidthTable := textTable
  [250, 333, 555, 500, 500, 1000, 833, 278, 333, 333, 500, 570, 250, 333, 250, 278, 500, 500, 500,
    500, 500, 500, 500, 500, 500, 500, 333, 333, 570, 570, 570, 500, 930, 722, 667, 722, 722, 667,
    611, 778, 778, 389, 500, 778, 667, 944, 722, 778, 611, 778, 722, 556, 667, 722, 722, 1000,
    722, 722, 667, 333, 278, 333, 581, 500, 333, 500, 556, 444, 556, 444, 333, 500, 556, 278, 333,
    556, 278, 833, 556, 500, 556, 556, 444, 389, 333, 556, 500, 722, 500, 500, 444, 394, 220, 394,
    520]
  [250, 333, 500, 500, 500, 500, 220, 500, 333, 747, 300, 500, 570, 333, 747, 333, 400, 570, 300,
    300, 333, 556, 540, 250, 333, 300, 330, 500, 750, 750, 750, 500, 722, 722, 722, 722, 722, 722,
    1000, 722, 667, 667, 667, 667, 389, 389, 389, 389, 722, 722, 778, 778, 778, 778, 778, 570,
    778, 722, 722, 722, 722, 722, 611, 556, 500, 500, 500, 500, 500, 500, 722, 444, 444, 444, 444,
    444, 278, 278, 278, 278, 500, 556, 500, 500, 500, 500, 500, 570, 500, 556, 556, 556, 556, 500,
    556, 500]
  [500, 333, 500, 500, 1000, 500, 500, 333, 1000, 556, 333, 1000, 667, 333, 333, 500, 500, 350,
    500, 1000, 333, 1000, 389, 333, 722, 444, 722]

/-- Widths in Times-Italic. -/
def timesItalic : WidthTable := textTable
  [250, 333, 420, 500, 500, 833, 778, 214, 333, 333, 500, 675, 250, 333, 250, 278, 500, 500, 500,
    500, 500, 500, 500, 500, 500, 500, 333, 333, 675, 675, 675, 500, 920, 611, 611, 667, 722, 611,
    611, 722, 722, 333, 444, 667, 556, 833, 667, 722, 611, 722, 611, 500, 556, 722, 611, 833, 611,
    556, 556, 389, 278, 389, 422, 500, 333, 500, 500, 444, 500, 444, 278, 500, 500, 278, 278, 444,
    278, 722, 500, 500, 500, 500, 389, 389, 278, 500, 444, 667, 444, 444, 389, 400, 275, 400, 541]
  [250, 389, 500, 500, 500, 500, 275, 500, 333, 760, 276, 500, 675, 333, 760, 333, 400, 675, 300,
    300, 333, 500, 523, 250, 333, 300, 310, 500, 750, 750, 750, 500, 611, 611, 611, 611, 611, 611,
    889, 667, 611, 611, 611, 611, 333, 333, 333, 333, 722, 667, 722, 722, 722, 722, 722, 675, 722,
    722, 722, 722, 722, 556, 611, 500, 500, 500, 500, 500, 500, 500, 667, 444, 444, 444, 444, 444,
    278, 278, 278, 278, 500, 500, 500, 500, 500, 500, 500, 675, 500, 500, 500, 500, 500, 444, 500,
    444]
  [500, 333, 500, 556, 889, 500, 500, 333, 1000, 500, 333, 944, 556, 333, 333, 556, 556, 350, 500,
    889, 333, 980, 389, 333, 667, 389, 556]

/-- Widths in Times-BoldItalic. -/
def timesBoldItalic : WidthTable := textTable
  [250, 389, 555, 500, 500, 833, 778, 278, 333, 333, 500, 570, 250, 333, 250, 278, 500, 500, 500,
    500, 500, 500, 500, 500, 500, 500, 333, 333, 570, 570, 570, 500, 832, 667, 667, 667, 722, 667,
    667, 722, 778, 389, 500, 667, 611, 889, 722, 722, 611, 722, 667, 556, 611, 722, 667, 889, 667,
    611, 611, 333, 278, 333, 570, 500, 333, 500, 500, 444, 500, 444, 333, 500, 556, 278, 278, 500,
    278, 778, 556, 500, 500, 500, 389, 389, 278, 556, 444, 667, 500, 444, 389, 348, 220, 348, 570]
  [250, 389, 500, 500, 500, 500, 220, 500, 333, 747, 266, 500, 606, 333, 747, 333, 400, 570, 300,
    300, 333, 576, 500, 250, 333, 300, 300, 500, 750, 750, 750, 500, 667, 667, 667, 667, 667, 667,
    944, 667, 667, 667, 667, 667, 389, 389, 389, 389, 722, 722, 722, 722, 722, 722, 722, 570, 722,
    722, 722, 722, 722, 611, 611, 500, 500, 500, 500, 500, 500, 500, 722, 444, 444, 444, 444, 444,
    278, 278, 278, 278, 500, 556, 500, 500, 500, 500, 500, 570, 500, 556, 556, 556, 556, 444, 500,
    444]
  [500, 333, 500, 500, 1000, 500, 500, 333, 1000, 556, 333, 944, 611, 333, 333, 500, 500, 350,
    500, 1000, 333, 1000, 389, 333, 722, 389, 611]

/-- Widths in Symbol. -/
def symbol : WidthTable := [
  (0x20, [250, 333]), (0x23, [500]), (0x25, [833, 778]), (0x28, [333, 333]), (0x2B, [549, 250]),
  (0x2E, [250, 278, 500, 500, 500, 500, 500, 500, 500, 500, 500, 500, 278, 278, 549, 549, 549,
  444]), (0x5B, [333]), (0x5D, [333]), (0x5F, [500]), (0x7B, [480, 200, 480]), (0xAC, [713]),
  (0xB0, [400, 549]), (0xB5, [576]), (0xD7, [549]), (0xF7, [549]), (0x0192, [500]), (0x0391, [722,
  667, 603, 612, 611, 611, 722, 741, 333, 722, 686, 889, 722, 645, 722, 768, 556]), (0x03A3, [592,
  611, 690, 763, 722, 795, 768]), (0x03B1, [631, 549, 411, 494, 439, 494, 603, 521, 329, 549, 549,
  576, 521, 493, 549, 549, 549, 439, 603, 439, 576, 521, 549, 686, 686]), (0x03D1, [631, 620]),
  (0x03D5, [603, 713]), (0x2022, [460]), (0x2026, [1000]), (0x2032, [247, 411]), (0x2044, [167]),
  (0x20AC, [750]), (0x2111, [686]), (0x2118, [987]), (0x211C, [795]), (0x2126, [768]), (0x2135,
  [823]), (0x2190, [987, 603, 987, 603, 1042]), (0x21B5, [658]), (0x21D0, [987, 603, 987, 603,
  1042]), (0x2200, [713]), (0x2202, [494, 549]), (0x2205, [823, 612, 713, 713, 713]), (0x220B,
  [439]), (0x220F, [823]), (0x2211, [713, 549]), (0x2217, [500]), (0x221A, [549]), (0x221D, [713,
  713]), (0x2220, [768]), (0x2227, [603, 603, 768, 768, 274]), (0x2234, [863]), (0x223C, [549]),
  (0x2245, [549]), (0x2248, [549]), (0x2260, [549, 549]), (0x2264, [549, 549]), (0x2282, [713,
  713, 713]), (0x2286, [713, 713]), (0x2295, [768]), (0x2297, [768]), (0x22A5, [658]), (0x22C5,
  [250]), (0x2320, [686, 686]), (0x2329, [329, 329]), (0x25CA, [494]), (0x2660, [753]), (0x2663,
  [753]), (0x2665, [753, 753]), (0xF6D9, [790, 790, 890]), (0xF8E5, [500, 603, 1000, 790, 790,
  786, 384, 384, 384, 384, 384, 384, 494, 494, 494, 494, 686, 384, 384, 384, 384, 384, 384, 494,
  494, 494])]

/-- Widths in ZapfDingbats. -/
def zapfDingbats : WidthTable := [
  (0x20, [278]), (0x2192, [838]), (0x2194, [1016, 458]), (0x2460, [788, 788, 788, 788, 788, 788,
  788, 788, 788, 788]), (0x25A0, [761]), (0x25B2, [892]), (0x25BC, [892]), (0x25C6, [788]),
  (0x25CF, [791]), (0x25D7, [438]), (0x2605, [816]), (0x260E, [719]), (0x261B, [960]), (0x261E,
  [939]), (0x2660, [626]), (0x2663, [776]), (0x2665, [694, 595]), (0x2701, [974, 961, 974, 980]),
  (0x2706, [789, 790, 791, 690]), (0x270C, [549, 855, 911, 933, 911, 945, 974, 755, 846, 762, 761,
  571, 677, 763, 760, 759, 754, 494, 552, 537, 577, 692, 786, 788, 788, 790, 793, 794]), (0x2729,
  [823, 789, 841, 823, 833, 816, 831, 923, 744, 723, 749, 790, 792, 695, 776, 768, 792, 759, 707,
  708, 682, 701, 826, 815, 789, 789, 707, 687, 696, 689, 786, 787, 713, 791, 785]), (0x274D,
  [873]), (0x274F, [762, 762, 759, 759]), (0x2756, [784]), (0x2758, [138, 277, 415, 392, 392, 668,
  668]), (0x2761, [732, 544, 544, 910, 667, 760, 760]), (0x2776, [788, 788, 788, 788, 788, 788,
  788, 788, 788, 788, 788, 788, 788, 788, 788, 788, 788, 788, 788, 788, 788, 788, 788, 788, 788,
  788, 788, 788, 788, 788, 894]), (0x2798, [748, 924, 748, 918, 927, 928, 928, 834, 873, 828, 924,
  924, 917, 930, 931, 463, 883, 836, 836, 867, 867, 696, 696, 874]), (0x27B1, [874, 760, 946, 771,
  865, 771, 888, 967, 888, 831, 873, 927, 970, 918]), (0xF8D7, [390, 390, 317, 317, 276, 276, 509,
  509, 410, 410, 234, 234, 334, 334])]

end PageTemplate.Plain
