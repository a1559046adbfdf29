import Formulas.Text.Category
import Formulas.Text.Table

/-! Properties of characters: a few categories each, and some characters besides. -/
namespace Formulas.Text

open Category

def otherLowercase : List (Nat × Nat) :=
  [(0xaa, 0xaa), (0xba, 0xba), (0x2b0, 0x2b8), (0x2c0, 0x2c1), (0x2e0, 0x2e4), (0x345, 0x345),
    (0x37a, 0x37a), (0x10fc, 0x10fc), (0x1d2c, 0x1d6a), (0x1d78, 0x1d78), (0x1d9b, 0x1dbf),
    (0x2071, 0x2071), (0x207f, 0x207f), (0x2090, 0x209c), (0x2170, 0x217f), (0x24d0, 0x24e9),
    (0x2c7c, 0x2c7d), (0xa69c, 0xa69d), (0xa770, 0xa770), (0xa7f1, 0xa7f4), (0xa7f8, 0xa7f9),
    (0xab5c, 0xab5f), (0xab69, 0xab69), (0x10780, 0x10780), (0x10783, 0x10785),
    (0x10787, 0x107b0), (0x107b2, 0x107ba), (0x1e030, 0x1e06d)]

def otherUppercase : List (Nat × Nat) :=
  [(0x2160, 0x216f), (0x24b6, 0x24cf), (0x1f130, 0x1f149), (0x1f150, 0x1f169), (0x1f170, 0x1f189)]

def isLowercase (c : Char) : Bool :=
  category c = lowercaseLetter || within otherLowercase c.toNat

def isUppercase (c : Char) : Bool :=
  category c = uppercaseLetter || within otherUppercase c.toNat

def isCased (c : Char) : Bool :=
  category c = titlecaseLetter || isLowercase c || isUppercase c

/-- Punctuation within words. -/
def midWord : List (Nat × Nat) :=
  [(0x27, 0x27), (0x2e, 0x2e), (0x3a, 0x3a), (0xb7, 0xb7), (0x387, 0x387), (0x55f, 0x55f),
    (0x5f4, 0x5f4), (0x2018, 0x2019), (0x2024, 0x2024), (0x2027, 0x2027), (0xfe13, 0xfe13),
    (0xfe52, 0xfe52), (0xfe55, 0xfe55), (0xff07, 0xff07), (0xff0e, 0xff0e), (0xff1a, 0xff1a)]

/-- Characters that do not count when the case of their surroundings is looked at. -/
def isCaseIgnorable (c : Char) : Bool :=
  category c ∈ [nonspacingMark, enclosingMark, format, modifierLetter, modifierSymbol] ||
    within midWord c.toNat

def isLetter (c : Char) : Bool :=
  category c ∈ [uppercaseLetter, lowercaseLetter, titlecaseLetter, modifierLetter, otherLetter]

def isMark (c : Char) : Bool :=
  category c ∈ [nonspacingMark, spacingMark, enclosingMark]

/-- Marks that count as letters. -/
def alphabeticMarks : List (Nat × Nat) := rangesOf
  "837 837 867 879 1456 1469 1471 1471 1473 1474 1476 1477 1479 1479 1552 1562 1611 1623 1625
    1631 1648 1648 1750 1756 1761 1764 1767 1768 1773 1773 1809 1809 1840 1855 1958 1968 2070
    2071 2075 2083 2085 2087 2089 2092 2199 2199 2260 2271 2275 2281 2288 2307 2362 2363 2366
    2380 2382 2383 2389 2391 2402 2403 2433 2435 2494 2500 2503 2504 2507 2508 2519 2519 2530
    2531 2561 2563 2622 2626 2631 2632 2635 2636 2641 2641 2672 2673 2677 2677 2689 2691 2750
    2757 2759 2761 2763 2764 2786 2787 2810 2812 2817 2819 2878 2884 2887 2888 2891 2892 2902
    2903 2914 2915 2946 2946 3006 3010 3014 3016 3018 3020 3031 3031 3072 3076 3134 3140 3142
    3144 3146 3148 3157 3158 3170 3171 3201 3203 3262 3268 3270 3272 3274 3276 3285 3286 3298
    3299 3315 3315 3328 3331 3390 3396 3398 3400 3402 3404 3415 3415 3426 3427 3457 3459 3535
    3540 3542 3542 3544 3551 3570 3571 3633 3633 3636 3642 3661 3661 3761 3761 3764 3769 3771
    3772 3789 3789 3953 3971 3981 3991 3993 4028 4139 4150 4152 4152 4155 4158 4182 4185 4190
    4192 4194 4196 4199 4205 4209 4212 4226 4237 4239 4239 4250 4253 5906 5907 5938 5939 5970
    5971 6002 6003 6070 6088 6277 6278 6313 6313 6432 6443 6448 6456 6679 6683 6741 6750 6753
    6772 6847 6848 6860 6862 6912 6916 6965 6979 7040 7042 7073 7081 7084 7085 7143 7153 7204
    7222 7635 7668 11744 11775 42612 42619 42654 42655 43010 43010 43019 43019 43043 43047 43136
    43137 43188 43203 43205 43205 43263 43263 43302 43306 43335 43346 43392 43395 43444 43455
    43493 43493 43561 43574 43587 43587 43596 43597 43643 43645 43696 43696 43698 43700 43703
    43704 43710 43710 43755 43759 43765 43765 44003 44010 64286 64286 66422 66426 68097 68099
    68101 68102 68108 68111 68900 68903 68969 68969 69291 69292 69370 69372 69632 69634 69688
    69701 69747 69748 69760 69762 69808 69816 69826 69826 69888 69890 69927 69938 69957 69958
    70016 70018 70067 70079 70094 70095 70188 70196 70199 70199 70206 70206 70209 70209 70367
    70376 70400 70403 70462 70468 70471 70472 70475 70476 70487 70487 70498 70499 70584 70592
    70594 70594 70597 70597 70599 70602 70604 70605 70709 70721 70723 70725 70832 70849 71087
    71093 71096 71102 71132 71133 71216 71230 71232 71232 71339 71349 71453 71466 71724 71736
    71984 71989 71991 71992 71995 71996 72000 72000 72002 72002 72145 72151 72154 72159 72164
    72164 72193 72202 72245 72249 72251 72254 72273 72283 72330 72343 72544 72551 72751 72758
    72760 72766 72850 72871 72873 72886 73009 73014 73018 73018 73020 73021 73023 73025 73027
    73027 73031 73031 73098 73102 73104 73105 73107 73110 73459 73462 73472 73473 73475 73475
    73524 73530 73534 73536 90398 90414 94031 94031 94033 94087 94095 94098 94192 94193 113822
    113822 122880 122886 122888 122904 122907 122913 122915 122916 122918 122922 123023 123023
    124643 124643 124646 124646 124654 124655 124661 124661 125255 125255"

/-- Letters in circles and squares. -/
def enclosedLetters : List (Nat × Nat) :=
  [(0x24b6, 0x24e9), (0x1f130, 0x1f149), (0x1f150, 0x1f169), (0x1f170, 0x1f189)]

/-- Letters, letter-like numbers, enclosed letters, and some marks. -/
def isAlphabetic (c : Char) : Bool :=
  isLetter c || category c = letterNumber || within enclosedLetters c.toNat ||
    (isMark c && within alphabeticMarks c.toNat)

def isNumeric (c : Char) : Bool := category c ∈ [decimalNumber, letterNumber, otherNumber]

/-- Spacing marks that extend a grapheme, joiners and tags. -/
def otherExtend : List (Nat × Nat) :=
  [(0x9be, 0x9be), (0x9d7, 0x9d7), (0xb3e, 0xb3e), (0xb57, 0xb57), (0xbbe, 0xbbe), (0xbd7, 0xbd7),
    (0xcc0, 0xcc0), (0xcc2, 0xcc2), (0xcc7, 0xcc8), (0xcca, 0xccb), (0xcd5, 0xcd6),
    (0xd3e, 0xd3e), (0xd57, 0xd57), (0xdcf, 0xdcf), (0xddf, 0xddf), (0x1715, 0x1715),
    (0x1734, 0x1734), (0x1b35, 0x1b35), (0x1b3b, 0x1b3b), (0x1b3d, 0x1b3d), (0x1b43, 0x1b44),
    (0x1baa, 0x1baa), (0x1bf2, 0x1bf3), (0x200c, 0x200c), (0x302e, 0x302f), (0xa953, 0xa953),
    (0xa9c0, 0xa9c0), (0xff9e, 0xff9f), (0x111c0, 0x111c0), (0x11235, 0x11235),
    (0x1133e, 0x1133e), (0x1134d, 0x1134d), (0x11357, 0x11357), (0x113b8, 0x113b8),
    (0x113c2, 0x113c2), (0x113c5, 0x113c5), (0x113c7, 0x113c9), (0x113cf, 0x113cf),
    (0x114b0, 0x114b0), (0x114bd, 0x114bd), (0x115af, 0x115af), (0x116b6, 0x116b6),
    (0x11930, 0x11930), (0x1193d, 0x1193d), (0x11f41, 0x11f41), (0x16ff0, 0x16ff1),
    (0x1d165, 0x1d166), (0x1d16d, 0x1d172), (0xe0020, 0xe007f)]

/-- Characters that join the character before them. -/
def isGraphemeExtend (c : Char) : Bool :=
  category c ∈ [nonspacingMark, enclosingMark] || within otherExtend c.toNat

/-- Characters with a shape of their own, and the plain space. -/
def isPrintable (c : Char) : Bool :=
  c = ' ' || category c ∉ [spaceSeparator, lineSeparator, paragraphSeparator, control, format,
    surrogate, privateUse, unassigned]

end Formulas.Text
