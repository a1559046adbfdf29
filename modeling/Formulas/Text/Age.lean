/-! The editions of the tables of characters, and the characters that came with each. -/
namespace Formulas.Text.Age

/-- The editions in order, each with the letter that stands for it in the table. -/
def editions : List (String × Char) :=
  [("1.1", 'a'), ("2.0", 'b'), ("2.1", 'c'), ("3.0", 'd'), ("3.1", 'e'), ("3.2", 'f'),
    ("4.0", 'g'), ("4.1", 'h'), ("5.0", 'i'), ("5.1", 'j'), ("5.2", 'k'), ("6.0", 'l'),
    ("6.1", 'm'), ("6.2", 'n'), ("6.3", 'o'), ("7.0", 'p'), ("8.0", 'q'), ("9.0", 'r'),
    ("10.0", 's'), ("11.0", 't'), ("12.0", 'u'), ("12.1", 'v'), ("13.0", 'w'), ("14.0", 'x'),
    ("15.0", 'y'), ("15.1", 'z'), ("16.0", 'A'), ("17.0", 'B')]

/-- All characters from the first on, as runs of one edition. A run is the number of its characters,
which is left out if it is one, and the letter of the edition, or a hyphen if no edition has them.
-/
def table : String :=
  "502a4d30a8dfg18d3g11h14i89a5d2g47ad10a5d17g70a9df8g5h3g2ad13f4j2a2j2-a3iap4-7a-a-20a-44aj7ad2
    fadadadad18a2ef5g4hd12ad66ad12ad41aj2d2f4d53a2f2a2f2a2fi28a2d8a2h2a6i16f4i16j2k2l8p-38a2-7at3
    9atad2-2pm-17bh13b10ai9ab3h8-27a4-t5a11-4gmp5jha9g5jaoxhal26a5j19a3d3g6hl14a2f72a2d5ad15ad30a
    2g10a5dg14d-30d3g27d2-3g30h18j49df14-59i2-3t46k2-15k-28l2-l-11s5-31xB2x5-A8xmp11m6p2qx8r10w11
    xt15rq27mpk3ag53a2l18akl5ak2l25a2j5lp2k2ih2ip3a-8a2-2a2-22a-7a-a3-4a2-ag7a2-2a2-3ah8-a4-2a-5a
    2-21ak2st2-gag-6a4-2a2-22a-7a-2a-2a-2a2-a-5a4-2a2-3a3-j7-4a-a7-15ajt10-3a-7aga-3a-22a-7a-2a-5
    a2-10a-3a-3a2-a15-a3g2-10amg7-q6s-3a-8a2-2a2-22a-7a-2a-g4a2-8aj2-2a2-3a7-w2a4-2a-3a2j2-11ag6l
    10-2a-6a3-3a-4a3-2a-a-2a3-2a3-3a3-8ah3a4-5a3-3a-4a2-j6-a14-h12a8g5-p3at8a-3a-23a-10ap5a2-xj7a
    -3a-4a7-2a-2jq-Bx2-2a2j2-10a7-u8jrp2at8a-3a-23a-10a-5a2-2g7a-3a-4a7-2a5-Bxa-2a2i2-10a-2iy12-s
    p2aw8a-3a-23al16al2sj6aj-3a-4alr4-3ra7rq2a2j2-10a6j3r7j-w2d-18d3-24d-9d-d2-7d3-d4-6d-d-8d6-10
    p2-3d12-58a4-29a37-2a-a-u2aua-ua6u4au7au3a-a-a2u2au13au3a2-5a-a-6ay-10a2-2a2m32-72b-33bd2j4-2
    7b4l6bdb-21b3d7bdb3d-15d-jd2h3j4k2l37-34dj5dj2dj7d3j4d6j26d64j4k2j38a-m5-m2-39a2f2hah3m90a5k6
    8a5k82a6k7dh63dhd-4d2-7d-d-4d2-39dhd-4d2-31dhd-4d2-7d-d-4d2-7dh7d-23dh31dhd-4d2-7dh39dh19d2-2
    l2h28d3-26h6-85dq2-6q2-k630d9k29d3-81d8p7-13fx7fx9-x23f9-20f12-13f-3f-2f12-93dg2-10d6-10g6-15
    dx10d6-88dt7-42dj5-70k10-29g2p-12g4-12g4-g3-42g2-5g11-42h2k4-26h6-10hk3-2h32g28h2-2h63k-29k2-
    11k6-10k6-14k2-15p2w14x15B2-12B20-76ix-2A45i2xA43j3m12j6m52l8-4l56j3-15j3-51j9r2A5-43t2-3t8m8
    -35k4ms2pu5-108g88h7i28j15p4sxrlk2i155ab4j90a6j22a2-6a2-38a2-6a2-8a-a-a-a-31a2-53a-15a-14a2-6
    a-19a2-3a-9a-47ad23af6d5f2g2hf7h5fj-4o7af2-27a-5h8l3-11abc3d2f4h3kln3pqsxB14-18a2d7fh4ij15-57
    a2dgh15fh2ij3k48adi4jk2q4-91a9d12f242a14fad121adf30d52f2g11h12ik11l7p4rs37a2d3A22-11a21-139a2
    0fg150a10f80a8d8f20a2g2fhd86a2d12f2h10f8g11hj2k2g16hi10j3k4j10kl19klk4l24kp4al4a2l28al35alal4
    a3lak7a2l7a14f31a3l24al14al7h4imjm2l28f4j16f256d512f14g6h7i5j4i41j3p5j5k26p2-32pBw34p3t12pu8p
    s25t4q15tu47hx47hx13i3jk3j4i6j2k107h7k2m5-45h-m5-m2-54h2m7-hl14-l23h9-7h-7h-7h-7h-7h-7h-7h-7h
    -32j24h4j2h19jk10m7p2r5s5tu3w11x34-26d-89d12-214d26-12d4z56a3d3fda-84a2f2-6a2f94af5-40ajst-94
    a-16a24d3l5w16h20j2A9-z16f29a2g-36a12kg15f28a2gh50a15f12a4g47av119a4g99a2g31ag6582d10w64g2090
    2a22h8j8km9q21s5t13w3x1165d3-18d2f16df12df3dfd9-48k300j20-32j2l18j8m28j6pqm88k8-23h4i5j2i107j
    2lq2l2m12p10lm3prt2p6q2t6u2x5u4w3A2B2xBxB5x3A20-B3x2wp2ml5j44hw3-10k6-56i8-69jr8-12j6-28k2q2t
    84j11-j29k3-78k-11k4-2k31p-55j9-14j2-10j2-4j28k4p67k24-5k23m10-6l2-6l2-6l9-7l-7l-48p4q2p2u4w4
    -80q46k2-10k6-11172b12-23k4-49k4-2048b6702a2m59f3k2-106h38-7a12-5a5-d25a-5a-a-2a-2a-108a16lx1
    6B365a16x64a2B54a7Bx32e12afg2x16f10h6-4a3j7p2q21a2f2g10a-19a-4a4-3afa-135a2-a-94a2f94a3-6a2-6
    a2-6a2-3a3-7a-7a10-3dc3a12g-26g-19g-2g-15g2-14g34-123g5-3g4-45g3-9g75h2p2r-12jw3-p47-46j130-2
    9j3-49j15-28p4-31ep4e9-3s27e5-43p5-30g-g36h4-14h42-38e2g38e80g2-10g6-36r4-36r4-40p8-52p11-p11
    x-15x-7x-2x-11x-15x-7x-2x3-52A12-311p9-22p10-8p24-6x-42x-9x69-6g2-g-44g-2g3-g2-g22k-9k63p8-9p
    48-19q-2q5-5q26i2k3-i26j5-j26B38-56m4-2q2m16q2-46q4h-2h5-8h-3h-27h2t2-3h4-9ht7-9h7-32k32p32-3
    9p4-12p9-54k3-29k2-27k5-8k18p7-4p12-7p80-73k55-51q13-51q7-6q40t8-10t6-38A3-29A8-2A208-31k-42w
    -3w2-2w16-3A3B8-9B33-2BA3y40t8-42t22-26x38-28w20-23u9-78l4-30l6x9-p66kx10-t2-25m7-10m6-53m-14
    m3tw8-39p9-73m4qp2w10mp5q-20p11-18p-43pr3y62-7q-q-4q-15q-11q6-59p5-10p6-q3p-8p2-2p2-22p-7p-2p
    -5p-t9p2-2p2-3p2-q6-p5-7p2-7p3-5p11-10A-A2-A-38A-10A-A2-A-4A-10A-2A8-2A29-90rwr-rtu2w30-72p8-
    10p166-54p2-18p20q34-69p11-10p6-13r19-56mux6-10m6-20A28-26qt2-15q4-16q7x185-60t100-83p12-p7w2
    -w2-8w-2w-30w-2w2-12w9-10w70-8u2-46u2-11u27-72s8-52s2u23st5s13-16x57p7-10y86-8B88-34A14-10A6-
    9r-45r-14r10-29r3-32r2-22r-14r73-7s-2s-44s3-s-2s-9s8-10s6-6t-2t-37t-2t-6t7-10t6-44B4-10B246-2
    5t7-17y-41y3-28yA85-w15-50u13-u879i42pq102-99i12p-4ip11-196q2636-99x13-1071ky9u29y10-3995A5-5
    83q6841-58A1734-569l7-31p-10p4-2p79x-10x6-30p2-6p10-70p10-10p-7p-21p5-19p432-58A198-91t5-25B2
    -25B44-69m6u4-u47m9u7-17m64-rs2uw11-2w5B9-6125r5t6u8B755r483w41-A9w22B97-115B8701-4x-7x-2x-2l
    285s4x15-y29-3u2-y14-4u8-396s2308-107p5-13p3-9p7-10p2-8p3932-250A3B3-436A6-23B15-17B15-46x2-2
    3x9-116x60-246e10-39e2-j180e11q2x21-70h122-20y12-20t12-87g9-18i7t135-85e-71e-2e2-e2-2e2-4e-12
    e-e-4eg2e-65e-4e2-8e-7e-28e-4e-5e-e3-7e-338e2h2-290e2i2-50e652q15-5q-15q1104-31x6-6y213-7r-17
    r2-7r-2r-5r5-62y33-y112-45u3-14u2-10u4-2u320-31x17-58u5-u464-42y214-43A4-A192-31B-22B8-2B224-
    7x-4x-2x-15x-197p2-16p41-75ru4-10r4-2r785-68t76-61u194-4m-27m-2m-m2-m-10m-4m-m-m6-m4-m-m-m-3m
    -2m-m2-m-m-m-m-m-2m-m2-4m-7m-4m-4m-m-10m-17m5-3m-5m-17m52-2m270-44j4-100j12-15l2-14lp-15l-15l
    22p10-11k2p3w31ktlk11lklk2lk3lk3l5k8lk7lk10l2mu3w9lkl2k2lk10l4k2lk10l18rw56-26lk2l13-34k9lr4-
    9k7-2l14-6s154-33l12p3q6lp70lp2q20l12p37lp5l4p5q12p17l7p8q63lplp182lp4l2pq62l2p4m7p5q24l18pr4
    1pr86p5lm16lm3lmlmlmlm3lm6l2m4lml2m4lm12l2p2q11l48p70l10pq2r2su2wB3-y3x13p3-4p3r2stu2w3-116l3
    y4B5y85p4ty6-12u4-x15-12p4-56p8-10p6-40p8-30p2-2w10A4-2A14-9B39-12sw3u9q6rs8r8sr2s12ru12rs3t1
    5r13s5tuw4t2wxtu4t5q13r6s11t2w6u3w2u10t6uq2t8uwx3u23s25t84u4B8-14t2-4uw3y3u2x3-3u4w2yAB3-BA6u
    19w4x3y7w4x3yAy3w3xA-B4-B2y7w3x2yA2-A8xyAB4-B7x2y7-147w-55w37A10wB1027-2b42711e7w2x32-4149k4x
    y6B222l2-5762q12B2-7473s15-622z2466-542e1504-2b4939w5-4192y4298B52100-2b65534-2b65534-2b65534
    -2b65534-2b65534-2b65534-2b65534-2b65534-2b65534-2b65534-2b-e30-96e128-240g65038-131074b"

/-- The runs of a table from a number on, each with its first and last characters. Line breaks are
stepped over. -/
def decode : (next count : Nat) → List Char → List (Nat × Nat × Char)
  | _, _, [] => []
  | next, count, c :: cs =>
    if c.isDigit then decode next (10 * count + (c.toNat - '0'.toNat)) cs
    else if c.isWhitespace then decode next count cs
    else
      let size := max count 1
      (next, next + size - 1, c) :: decode (next + size) 0 cs

/-- The ranges of the characters that came with some editions. -/
def rangesOf (chosen : List String) : List (Nat × Nat) :=
  let letters := (editions.filter fun (name, _) => name ∈ chosen).map (·.2)
  (decode 0 0 table.toList).filterMap fun (first, last, letter) =>
    if letters.contains letter then some (first, last) else none

def editionsBefore (edition : String) : List String :=
  (editions.map (·.1)).takeWhile (· ≠ edition)

end Formulas.Text.Age
