namespace PointsTo.Unicode

/-- Where the characters used in a script differ from those that belong to it, by the name of the
script. -/
def scriptExtensionTable : List (List String × String) :=
  [(["adlam"],
    "1567 1 32 1 6670 1 3569 1"),
   (["arabic"],
    "1548 1 14 1 3 1 32 1 10 11 26 1 6622 1 3569 1 52988 2 1440 28"),
   (["armenian"],
    "776 1"),
   (["avestan"],
    "183 1 11640 2"),
   (["bengali"],
    "700 1 1684 2 17 2 4970 1 1 1 2 2 1 1 8 1 8 1 2 1 4 1 2 3 35833 1"),
   (["bopomofo"],
    "711 1 1 3 13 1 11559 3 4 10 1 13 10 4 2 1 6 1 195 1 52553 2 282 5"),
   (["buginese"],
    "43471 1"),
   (["buhid"],
    "5941 2"),
   (["carian"],
    "183 1 8098 1 2 1 3539 1"),
   (["caucasianalbanian"],
    "772 1 44 1 44 1"),
   (["chakma"],
    "2534 10 1616 10"),
   (["cherokee"],
    "768 3 1 1 6 2 22 2 11 2"),
   (["common"],
    "183 1 516 1 10 1 1 3 1 1 9 1 1 1 154 1 663 1 14 1 3 1 32 1 803 2 1941 1 1519 3 71 2 203 2
     1 1 1229 1 13 1 7 4 1 6 1 3 2 1 820 1 31 1 10 1 2 1 3513 1 24 2 10 1 4 1 1 1 428 16 1 3 2
     1 1 10 1 13 16 6 1 1 4 4 91 2 3 1 90 2 147 16 32 38 9 1 48 40 56 49 15 12 51 1 88 25 10 5
     96 31 29441 8 296 10 244 1 160 1 21358 2 261 2 282 5 10 1 45 2 352 3 4 45 3 9 417 27 47524
     4 5820 18 7902 2"),
   (["coptic"],
    "183 1 584 1 3 2 1 1 108 2 10913 1 54472 28"),
   (["cypriot"],
    "65792 3 4 45 3 9"),
   (["cyprominoan"],
    "65792 2"),
   (["cyrillic"],
    "700 1 67 3 1 1 1 1 1 1 2 1 5 1 371 2 6513 1 4170 1"),
   (["devanagari"],
    "700 1 1684 2 17 2 4970 39 1 2 1014 1 34623 10"),
   (["dogra"],
    "2404 12 40640 10"),
   (["duployan"],
    "183 1 591 2 1 1 24 2 11031 1 101987 4"),
   (["elbasan"],
    "183 1 589 1"),
   (["ethiopic"],
    "782 1"),
   (["garay"],
    "1548 1 14 1 3 1"),
   (["georgian"],
    "183 1 1233 1 2929 1 3934 1 3542 1"),
   (["glagolitic"],
    "183 1 587 1 1 1 382 1 2 1 257 1 2929 1 3934 1 3560 1 30763 1"),
   (["gothic"],
    "183 1 588 2 2 1 40 1"),
   (["grantha"],
    "2385 2 17 2 640 14 4316 1 1 2 30 3 3 2 1014 1 62026 1 3220 2 1 1"),
   (["greek"],
    "183 1 584 2 2 1 1 1 1 1 10 1 46 1 2 1 46 1 6731 2 667 1"),
   (["gujarati"],
    "2385 2 17 2 40650 10"),
   (["gunjalagondi"],
    "183 1 2220 2"),
   (["gurmukhi"],
    "2385 2 17 2 40650 10"),
   (["gurungkhema"],
    "2405 1"),
   (["han"],
    "183 1 12088 16 1 3 2 1 1 10 1 13 10 4 2 1 6 1 4 4 187 1 148 16 32 38 9 1 48 40 56 49 15 12
     51 1 88 25 10 5 96 31 29441 8 22333 2 282 5 54266 18 7902 2"),
   (["hangul"],
    "12289 3 4 10 1 13 16 1 6 1 195 1 52553 2 282 5"),
   (["hanifirohingya"],
    "1548 1 14 1 3 1 32 1 147 1"),
   (["hanunoo"],
    "5941 2"),
   (["hebrew"],
    "775 2"),
   (["hiragana"],
    "12289 3 4 10 1 13 16 6 1 1 4 2 91 4 3 1 90 2 52552 2 282 5 10 1 45 2"),
   (["inherited"],
    "768 15 1 2 1 1 15 3 7 2 1 2 16 1 2 1 18 1 5 1 4 13 277 2 452 11 26 1 736 2 4989 3 1 13 1 7
     4 1 6 1 3 2 198 2 54 1 1 1 757 1 3897 4 107 2 53829 1 4186 1"),
   (["javanese"],
    "43471 1"),
   (["kaithi"],
    "2406 10 9409 1 31230 10"),
   (["kannada"],
    "2385 2 17 2 4970 1 1 2 6 1 23 1 1 1 35643 6"),
   (["katakana"],
    "773 1 29 1 11485 3 4 10 1 13 16 6 1 1 4 2 91 4 3 1 90 2 52552 2 282 5 10 1 45 2"),
   (["kayahli"],
    "43310 1"),
   (["khojki"],
    "2790 10 40256 10"),
   (["khudawadi"],
    "2404 2 40650 10"),
   (["latin"],
    "183 1 516 1 10 1 1 3 1 1 9 1 1 1 38 15 1 2 1 1 15 3 7 2 1 2 38 1 5 1 4 13 277 2 1226 2
     1960 1 3324 1 566 1 192 1 3366 1 30952 8 550 1"),
   (["limbu"],
    "2405 1"),
   (["lineara"],
    "65799 45"),
   (["linearb"],
    "65792 3 4 45 3 9"),
   (["lisu"],
    "700 1 16 1 11580 2"),
   (["lycian"],
    "8282 1"),
   (["lydian"],
    "183 1 11641 1"),
   (["mahajani"],
    "183 1 2220 12 40640 10"),
   (["malayalam"],
    "2385 2 17 2 4980 1 23 1 35645 3"),
   (["mandaic"],
    "1600 1"),
   (["manichaean"],
    "1600 1"),
   (["masaramgondi"],
    "2404 2"),
   (["meroitichieroglyphs"],
    "8285 1"),
   (["modi"],
    "43056 10"),
   (["mongolian"],
    "6146 2 1 1 2089 1 4049 2 5 4"),
   (["multani"],
    "2662 10"),
   (["myanmar"],
    "43310 1"),
   (["nandinagari"],
    "2385 1 18 2 896 10 4089 1 8 1 7 1 35637 6"),
   (["newa"],
    "2385 2 4994 1 1 2 9 1 6 1 1 1 1 1"),
   (["nko"],
    "1548 1 14 1 3 1 63262 2"),
   (["olonal"],
    "2404 2"),
   (["oldhungarian"],
    "8282 1 2 1 3539 1 15 1"),
   (["oldpermic"],
    "183 1 584 1 5 3 10 1 367 1"),
   (["oldturkic"],
    "8282 1 3541 1"),
   (["olduyghur"],
    "1600 1 66737 1"),
   (["oriya"],
    "2385 2 17 2 4980 1 23 1"),
   (["osage"],
    "769 1 2 1 6 1 76 1"),
   (["phagspa"],
    "6146 2 1 1 2089 1 4050 1"),
   (["psalterpahlavi"],
    "1600 1"),
   (["runic"],
    "5867 3"),
   (["samaritan"],
    "11825 1"),
   (["sharada"],
    "2385 1 4997 1 1 1 2 2 2 1 9 1 2 1 35650 6 2 1"),
   (["shavian"],
    "183 1"),
   (["sinhala"],
    "2404 2 5004 1"),
   (["sogdian"],
    "1600 1"),
   (["sunuwar"],
    "768 2 1 1 9 1 2 1 28 1 3 1"),
   (["sylotinagri"],
    "2404 2 128 10"),
   (["syriac"],
    "771 2 2 2 1 1 24 3 7 2 1 2 730 1 14 2 2 1 32 1 10 11 26 1 6023 1 1 1"),
   (["tagalog"],
    "5941 2"),
   (["tagbanwa"],
    "5941 2"),
   (["taile"],
    "768 2 5 2 3 1 3379 10"),
   (["takri"],
    "2404 2 40650 10"),
   (["tamil"],
    "2385 2 17 2 4980 1 35864 1 27149 1 1 1 55 2"),
   (["tangut"],
    "12272 16 495 1"),
   (["telugu"],
    "2385 2 17 2 4975 2 1 1 1 1 23 1"),
   (["thaana"],
    "1548 1 14 2 2 1 64 10 63368 1 10 1"),
   (["thai"],
    "700 1 26 1 43 1 45 1"),
   (["tibetan"],
    "12296 4"),
   (["tifinagh"],
    "770 1 1 1 1 4 25 1"),
   (["tirhuta"],
    "2385 2 17 2 4975 1 12 1 15 1 35645 10"),
   (["todhri"],
    "769 1 2 1 2 1 9 1 1 1 74 1"),
   (["toto"],
    "700 1"),
   (["tulutigalari"],
    "3302 10 4098 1 1 1 35643 6 187 1"),
   (["yezidi"],
    "1548 1 14 1 3 1 64 10"),
   (["yi"],
    "12289 2 5 10 2 8 223 1 52837 5")]

end PointsTo.Unicode
