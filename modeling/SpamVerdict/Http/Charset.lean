import SpamVerdict.Text.Blank
import SpamVerdict.Text.Case
import SpamVerdict.Text.Utf8
set_option autoImplicit false

/-!
# Encodings of a body (SPEC_FULL §6)

SPEC_FULL §6 asks of the content-score service a body in JSON and says nothing of its bytes, so its
content type does.  The bytes of a body are text in UTF-8, in UTF-16, in one of the encodings in
which every byte is a character and those below 128 are ASCII, or in one of the seven for East Asian
scripts in which a character may take several bytes.

The tables of the latter are not kept here: what their bytes mean is said by a `Decoder`, and
nothing that is proved of a body depends on which one.  Encodings are known by many names;
`Charset.ofName?` finds the one that a name means.
-/

namespace SpamVerdict.Http

/-- The encodings in which a character may take several bytes that are not Unicode units. -/
inductive MultiByte where
  | gbk
  | gb18030
  | big5
  | eucJp
  | iso2022Jp
  | shiftJis
  | eucKr
  deriving DecidableEq, Repr

/-- What bytes mean in the encodings of which no table is kept here. -/
abbrev Decoder := MultiByte → List UInt8 → List Char

/-- The encodings in which a body may be written. -/
inductive Charset where
  | utf8
  | utf16 (bigEndian : Bool)
  | multiByte (encoding : MultiByte)
  /-- Every byte is a character: those below `start` have their own numbers, and the others are the
  characters of the list in turn. -/
  | bytewise (start : Nat) (others : List Char)
  /-- Bytes from 128 on are characters without a meaning of their own. -/
  | unassigned
  /-- An encoding that is not read: no text at all can be trusted. -/
  | refused

/-- A family of names, separated by spaces, with the encoding in which every byte is a
character. -/
structure BytewiseRow where
  names : List String
  start : Nat
  others : List String

/-- The encodings in which every byte is a character. -/
def bytewiseRows : List BytewiseRow := [
  ⟨["866 cp866 csibm866 ibm866"],
    0x80, ["АБВГДЕЖЗИЙКЛМНОПРСТУФХЦЧШЩЪЫЬЭЮЯабвгдежзийклмноп░▒▓│┤╡╢╖╕╣║╗╝╜╛┐└┴┬├─┼╞╟╚╔╩╦╠═╬╧╨╤╥╙╘╒",
     "╓╫╪┘┌█▄▌▐▀рстуфхцчшщъыьэюяЁёЄєЇїЎў°∙·√№¤■\xa0"]⟩,
  ⟨["csisolatin2 iso-8859-2 iso-ir-101 iso8859-2 iso88592 iso_8859-2 iso_8859-2:1987 l2",
     "latin2"],
    0xA0, ["\xa0Ą˘Ł¤ĽŚ§¨ŠŞŤŹ\xadŽŻ°ą˛ł´ľśˇ¸šşťź˝žżŔÁÂĂÄĹĆÇČÉĘËĚÍÎĎĐŃŇÓÔŐÖ×ŘŮÚŰÜÝŢßŕáâăäĺćçčéęëěíîď",
     "đńňóôőö÷řůúűüýţ˙"]⟩,
  ⟨["csisolatin3 iso-8859-3 iso-ir-109 iso8859-3 iso88593 iso_8859-3 iso_8859-3:1988 l3",
     "latin3"],
    0xA0, ["\xa0Ħ˘£¤\ufffdĤ§¨İŞĞĴ\xad\ufffdŻ°ħ²³´µĥ·¸ışğĵ½\ufffdżÀÁÂ\ufffdÄĊĈÇÈÉÊËÌÍÎÏ\ufffdÑÒÓÔĠÖ",
     "×ĜÙÚÛÜŬŜßàáâ\ufffdäċĉçèéêëìíîï\ufffdñòóôġö÷ĝùúûüŭŝ˙"]⟩,
  ⟨["csisolatin4 iso-8859-4 iso-ir-110 iso8859-4 iso88594 iso_8859-4 iso_8859-4:1988 l4",
     "latin4"],
    0xA0, ["\xa0ĄĸŖ¤ĨĻ§¨ŠĒĢŦ\xadŽ¯°ą˛ŗ´ĩļˇ¸šēģŧŊžŋĀÁÂÃÄÅÆĮČÉĘËĖÍÎĪĐŅŌĶÔÕÖ×ØŲÚÛÜŨŪßāáâãäåæįčéęëėíîī",
     "đņōķôõö÷øųúûüũū˙"]⟩,
  ⟨["csisolatincyrillic cyrillic iso-8859-5 iso-ir-144 iso8859-5 iso88595 iso_8859-5",
     "iso_8859-5:1988"],
    0xA0, ["\xa0ЁЂЃЄЅІЇЈЉЊЋЌ\xadЎЏАБВГДЕЖЗИЙКЛМНОПРСТУФХЦЧШЩЪЫЬЭЮЯабвгдежзийклмнопрстуфхцчшщъыьэюя",
     "№ёђѓєѕіїјљњћќ§ўџ"]⟩,
  ⟨["arabic asmo-708 csiso88596e csiso88596i csisolatinarabic ecma-114 iso-8859-6",
     "iso-8859-6-e iso-8859-6-i iso-ir-127 iso8859-6 iso88596 iso_8859-6 iso_8859-6:1987"],
    0xA0, ["\xa0\ufffd\ufffd\ufffd¤\ufffd\ufffd\ufffd\ufffd\ufffd\ufffd\ufffd،\xad\ufffd\ufffd",
     "\ufffd\ufffd\ufffd\ufffd\ufffd\ufffd\ufffd\ufffd\ufffd\ufffd\ufffd\u061b\ufffd\ufffd",
     "\ufffd\u061f\ufffd\u0621\u0622\u0623\u0624\u0625\u0626\u0627\u0628\u0629\u062a\u062b",
     "\u062c\u062d\u062e\u062f\u0630\u0631\u0632\u0633\u0634\u0635\u0636\u0637\u0638\u0639",
     "\u063a\ufffd\ufffd\ufffd\ufffd\ufffd\u0640\u0641\u0642\u0643\u0644\u0645\u0646\u0647",
     "\u0648\u0649\u064a\u064b\u064c\u064d\u064e\u064f\u0650\u0651\u0652\ufffd\ufffd\ufffd",
     "\ufffd\ufffd\ufffd\ufffd\ufffd\ufffd\ufffd\ufffd\ufffd\ufffd"]⟩,
  ⟨["csisolatingreek ecma-118 elot_928 greek greek8 iso-8859-7 iso-ir-126 iso8859-7",
     "iso88597 iso_8859-7 iso_8859-7:1987 sun_eu_greek"],
    0xA0, ["\xa0‘’£€₯¦§¨©ͺ«¬\xad\ufffd―°±²³΄΅Ά·ΈΉΊ»Ό½ΎΏΐΑΒΓΔΕΖΗΘΙΚΛΜΝΞΟΠΡ\ufffdΣΤΥΦΧΨΩΪΫάέήίΰαβγδε",
     "ζηθικλμνξοπρςστυφχψωϊϋόύώ\ufffd"]⟩,
  ⟨["csiso88598e csiso88598i csisolatinhebrew hebrew iso-8859-8 iso-8859-8-e iso-8859-8-i",
     "iso-ir-138 iso8859-8 iso88598 iso_8859-8 iso_8859-8:1988 logical visual"],
    0xA0, ["\xa0\ufffd¢£¤¥¦§¨©×«¬\xad®¯°±²³´µ¶·¸¹÷»¼½¾\ufffd\ufffd\ufffd\ufffd\ufffd\ufffd\ufffd",
     "\ufffd\ufffd\ufffd\ufffd\ufffd\ufffd\ufffd\ufffd\ufffd\ufffd\ufffd\ufffd\ufffd\ufffd",
     "\ufffd\ufffd\ufffd\ufffd\ufffd\ufffd\ufffd\ufffd\ufffd\ufffd\ufffd‗\u05d0\u05d1\u05d2",
     "\u05d3\u05d4\u05d5\u05d6\u05d7\u05d8\u05d9\u05da\u05db\u05dc\u05dd\u05de\u05df\u05e0",
     "\u05e1\u05e2\u05e3\u05e4\u05e5\u05e6\u05e7\u05e8\u05e9\u05ea\ufffd\ufffd\u200e\u200f",
     "\ufffd"]⟩,
  ⟨["csisolatin6 iso-8859-10 iso-ir-157 iso8859-10 iso885910 l6 latin6"],
    0xA0, ["\xa0ĄĒĢĪĨĶ§ĻĐŠŦŽ\xadŪŊ°ąēģīĩķ·ļđšŧž―ūŋĀÁÂÃÄÅÆĮČÉĘËĖÍÎÏÐŅŌÓÔÕÖŨØŲÚÛÜÝÞßāáâãäåæįčéęëėíîï",
     "ðņōóôõöũøųúûüýþĸ"]⟩,
  ⟨["iso-8859-13 iso8859-13 iso885913"],
    0xA0, ["\xa0”¢£¤„¦§Ø©Ŗ«¬\xad®Æ°±²³“µ¶·ø¹ŗ»¼½¾æĄĮĀĆÄÅĘĒČÉŹĖĢĶĪĻŠŃŅÓŌÕÖ×ŲŁŚŪÜŻŽßąįāćäåęēčéźėģķīļ",
     "šńņóōõö÷ųłśūüżž’"]⟩,
  ⟨["iso-8859-14 iso8859-14 iso885914"],
    0xA0, ["\xa0Ḃḃ£ĊċḊ§Ẁ©ẂḋỲ\xad®ŸḞḟĠġṀṁ¶ṖẁṗẃṠỳẄẅṡÀÁÂÃÄÅÆÇÈÉÊËÌÍÎÏŴÑÒÓÔÕÖṪØÙÚÛÜÝŶßàáâãäåæçèéêëìíîï",
     "ŵñòóôõöṫøùúûüýŷÿ"]⟩,
  ⟨["csisolatin9 iso-8859-15 iso8859-15 iso885915 iso_8859-15 l9"],
    0xA0, ["\xa0¡¢£€¥Š§š©ª«¬\xad®¯°±²³Žµ¶·ž¹º»ŒœŸ¿ÀÁÂÃÄÅÆÇÈÉÊËÌÍÎÏÐÑÒÓÔÕÖ×ØÙÚÛÜÝÞßàáâãäåæçèéêëìíîï",
     "ðñòóôõö÷øùúûüýþÿ"]⟩,
  ⟨["iso-8859-16"],
    0xA0, ["\xa0ĄąŁ€„Š§š©Ș«Ź\xadźŻ°±ČłŽ”¶·žčș»ŒœŸżÀÁÂĂÄĆÆÇÈÉÊËÌÍÎÏĐŃÒÓÔŐÖŚŰÙÚÛÜĘȚßàáâăäćæçèéêëìíîï",
     "đńòóôőöśűùúûüęțÿ"]⟩,
  ⟨["cskoi8r koi koi8 koi8-r koi8_r"],
    0x80, ["─│┌┐└┘├┤┬┴┼▀▄█▌▐░▒▓⌠■∙√≈≤≥\xa0⌡°²·÷═║╒ё╓╔╕╖╗╘╙╚╛╜╝╞╟╠╡Ё╢╣╤╥╦╧╨╩╪╫╬©юабцдефгхийклмнопяр",
     "стужвьызшэщчъЮАБЦДЕФГХИЙКЛМНОПЯРСТУЖВЬЫЗШЭЩЧЪ"]⟩,
  ⟨["koi8-ru koi8-u"],
    0x80, ["─│┌┐└┘├┤┬┴┼▀▄█▌▐░▒▓⌠■∙√≈≤≥\xa0⌡°²·÷═║╒ёє╔ії╗╘╙╚╛ґў╞╟╠╡ЁЄ╣ІЇ╦╧╨╩╪ҐЎ©юабцдефгхийклмнопяр",
     "стужвьызшэщчъЮАБЦДЕФГХИЙКЛМНОПЯРСТУЖВЬЫЗШЭЩЧЪ"]⟩,
  ⟨["csmacintosh mac macintosh x-mac-roman"],
    0x80, ["ÄÅÇÉÑÖÜáàâäãåçéèêëíìîïñóòôöõúùûü†°¢£§•¶ß®©™´¨≠ÆØ∞±≤≥¥µ∂∑∏π∫ªºΩæø¿¡¬√ƒ≈∆«»…\xa0ÀÃÕŒœ–—“",
     "”‘’÷◊ÿŸ⁄€‹›ﬁﬂ‡·‚„‰ÂÊÁËÈÍÎÏÌÓÔ\uf8ffÒÚÛÙıˆ˜¯˘˙˚¸˝˛ˇ"]⟩,
  ⟨["dos-874 iso-8859-11 iso8859-11 iso885911 tis-620 windows-874"],
    0x80, ["€\x81\x82\x83\x84…\x86\x87\x88\x89\x8a\x8b\x8c\x8d\x8e\x8f\x90‘’“”•–—\x98\x99\x9a\x9b",
     "\x9c\x9d\x9e\x9f\xa0กขฃคฅฆงจฉชซฌญฎฏฐฑฒณดตถทธนบปผฝพฟภมยรฤลฦวศษสหฬอฮฯะ\u0e31าำ\u0e34",
     "\u0e35\u0e36\u0e37\u0e38\u0e39\u0e3a\ufffd\ufffd\ufffd\ufffd฿เแโใไๅๆ\u0e47\u0e48\u0e49",
     "\u0e4a\u0e4b\u0e4c\u0e4d\u0e4e๏๐๑๒๓๔๕๖๗๘๙๚๛\ufffd\ufffd\ufffd\ufffd"]⟩,
  ⟨["cp1250 windows-1250 x-cp1250"],
    0x80, ["€\x81‚\x83„…†‡\x88‰Š‹ŚŤŽŹ\x90‘’“”•–—\x98™š›śťžź\xa0ˇ˘Ł¤Ą¦§¨©Ş«¬\xad®Ż°±˛ł´µ¶·¸ąş»Ľ˝ľżŔ",
     "ÁÂĂÄĹĆÇČÉĘËĚÍÎĎĐŃŇÓÔŐÖ×ŘŮÚŰÜÝŢßŕáâăäĺćçčéęëěíîďđńňóôőö÷řůúűüýţ˙"]⟩,
  ⟨["cp1251 windows-1251 x-cp1251"],
    0x80, ["ЂЃ‚ѓ„…†‡€‰Љ‹ЊЌЋЏђ‘’“”•–—\x98™љ›њќћџ\xa0ЎўЈ¤Ґ¦§Ё©Є«¬\xad®Ї°±Ііґµ¶·ё№є»јЅѕїАБВГДЕЖЗИЙКЛМ",
     "НОПРСТУФХЦЧШЩЪЫЬЭЮЯабвгдежзийклмнопрстуфхцчшщъыьэюя"]⟩,
  ⟨["ansi_x3.4-1968 ascii cp1252 cp819 csisolatin1 ibm819 iso-8859-1 iso-ir-100 iso8859-1",
     "iso88591 iso_8859-1 iso_8859-1:1987 l1 latin1 us-ascii windows-1252 x-cp1252"],
    0x80, ["€\x81‚ƒ„…†‡ˆ‰Š‹Œ\x8dŽ\x8f\x90‘’“”•–—˜™š›œ\x9džŸ\xa0¡¢£¤¥¦§¨©ª«¬\xad®¯°±²³´µ¶·¸¹º»¼½¾¿À",
     "ÁÂÃÄÅÆÇÈÉÊËÌÍÎÏÐÑÒÓÔÕÖ×ØÙÚÛÜÝÞßàáâãäåæçèéêëìíîïðñòóôõö÷øùúûüýþÿ"]⟩,
  ⟨["cp1253 windows-1253 x-cp1253"],
    0x80, ["€\x81‚ƒ„…†‡\x88‰\x8a‹\x8c\x8d\x8e\x8f\x90‘’“”•–—\x98™\x9a›\x9c\x9d\x9e\x9f\xa0΅Ά£¤¥¦§¨",
     "©\ufffd«¬\xad®―°±²³΄µ¶·ΈΉΊ»Ό½ΎΏΐΑΒΓΔΕΖΗΘΙΚΛΜΝΞΟΠΡ\ufffdΣΤΥΦΧΨΩΪΫάέήίΰαβγδεζηθικλμνξοπρ",
     "ςστυφχψωϊϋόύώ\ufffd"]⟩,
  ⟨["cp1254 csisolatin5 iso-8859-9 iso-ir-148 iso8859-9 iso88599 iso_8859-9",
     "iso_8859-9:1989 l5 latin5 windows-1254 x-cp1254"],
    0x80, ["€\x81‚ƒ„…†‡ˆ‰Š‹Œ\x8d\x8e\x8f\x90‘’“”•–—˜™š›œ\x9d\x9eŸ\xa0¡¢£¤¥¦§¨©ª«¬\xad®¯°±²³´µ¶·¸¹º",
     "»¼½¾¿ÀÁÂÃÄÅÆÇÈÉÊËÌÍÎÏĞÑÒÓÔÕÖ×ØÙÚÛÜİŞßàáâãäåæçèéêëìíîïğñòóôõö÷øùúûüışÿ"]⟩,
  ⟨["cp1255 windows-1255 x-cp1255"],
    0x80, ["€\x81‚ƒ„…†‡ˆ‰\x8a‹\x8c\x8d\x8e\x8f\x90‘’“”•–—˜™\x9a›\x9c\x9d\x9e\x9f\xa0¡¢£₪¥¦§¨©×«¬",
     "\xad®¯°±²³´µ¶·¸¹÷»¼½¾¿\u05b0\u05b1\u05b2\u05b3\u05b4\u05b5\u05b6\u05b7\u05b8\u05b9",
     "\u05ba\u05bb\u05bc\u05bd\u05be\u05bf\u05c0\u05c1\u05c2\u05c3\u05f0\u05f1\u05f2\u05f3",
     "\u05f4\ufffd\ufffd\ufffd\ufffd\ufffd\ufffd\ufffd\u05d0\u05d1\u05d2\u05d3\u05d4\u05d5",
     "\u05d6\u05d7\u05d8\u05d9\u05da\u05db\u05dc\u05dd\u05de\u05df\u05e0\u05e1\u05e2\u05e3",
     "\u05e4\u05e5\u05e6\u05e7\u05e8\u05e9\u05ea\ufffd\ufffd\u200e\u200f\ufffd"]⟩,
  ⟨["cp1256 windows-1256 x-cp1256"],
    0x80, ["€\u067e‚ƒ„…†‡ˆ‰\u0679‹Œ\u0686\u0698\u0688\u06af‘’“”•–—\u06a9™\u0691›œ\u200c\u200d",
     "\u06ba\xa0،¢£¤¥¦§¨©\u06be«¬\xad®¯°±²³´µ¶·¸¹\u061b»¼½¾\u061f\u06c1\u0621\u0622\u0623",
     "\u0624\u0625\u0626\u0627\u0628\u0629\u062a\u062b\u062c\u062d\u062e\u062f\u0630\u0631",
     "\u0632\u0633\u0634\u0635\u0636×\u0637\u0638\u0639\u063a\u0640\u0641\u0642\u0643à\u0644",
     "â\u0645\u0646\u0647\u0648çèéêë\u0649\u064aîï\u064b\u064c\u064d\u064eô\u064f\u0650÷",
     "\u0651ù\u0652ûü\u200e\u200f\u06d2"]⟩,
  ⟨["cp1257 windows-1257 x-cp1257"],
    0x80, ["€\x81‚\x83„…†‡\x88‰\x8a‹\x8c¨ˇ¸\x90‘’“”•–—\x98™\x9a›\x9c¯˛\x9f\xa0\ufffd¢£¤\ufffd¦§Ø©Ŗ",
     "«¬\xad®Æ°±²³´µ¶·ø¹ŗ»¼½¾æĄĮĀĆÄÅĘĒČÉŹĖĢĶĪĻŠŃŅÓŌÕÖ×ŲŁŚŪÜŻŽßąįāćäåęēčéźėģķīļšńņóōõö÷ųłśūüż",
     "ž˙"]⟩,
  ⟨["cp1258 windows-1258 x-cp1258"],
    0x80, ["€\x81‚ƒ„…†‡ˆ‰\x8a‹Œ\x8d\x8e\x8f\x90‘’“”•–—˜™\x9a›œ\x9d\x9eŸ\xa0¡¢£¤¥¦§¨©ª«¬\xad®¯°±²³´",
     "µ¶·¸¹º»¼½¾¿ÀÁÂĂÄÅÆÇÈÉÊË\u0300ÍÎÏĐÑ\u0309ÓÔƠÖ×ØÙÚÛÜƯ\u0303ßàáâăäåæçèéêë\u0301íîïđñ",
     "\u0323óôơö÷øùúûüư₫ÿ"]⟩,
  ⟨["x-mac-cyrillic x-mac-ukrainian"],
    0x80, ["АБВГДЕЖЗИЙКЛМНОПРСТУФХЦЧШЩЪЫЬЭЮЯ†°Ґ£§•¶І®©™Ђђ≠Ѓѓ∞±≤≥іµґЈЄєЇїЉљЊњјЅ¬√ƒ≈∆«»…\xa0ЋћЌќѕ–—“",
     "”‘’÷„ЎўЏџ№Ёёяабвгдежзийклмнопрстуфхцчшщъыьэю€"]⟩]

/-- The names of the encodings of which no table is kept here. -/
def multiByteNames : List (String × MultiByte) := [
  ("chinese csgb2312 csiso58gb231280 gb2312 gb_2312 gb_2312-80 gbk iso-ir-58 x-gbk", .gbk),
  ("gb18030", .gb18030),
  ("big5 big5-hkscs cn-big5 csbig5 x-x-big5", .big5),
  ("cseucpkdfmtjapanese euc-jp x-euc-jp", .eucJp),
  ("csiso2022jp iso-2022-jp", .iso2022Jp),
  ("csshiftjis ms932 ms_kanji shift-jis shift_jis sjis windows-31j x-sjis", .shiftJis),
  ("cseuckr csksc56011987 euc-kr iso-ir-149 korean ks_c_5601-1987 ks_c_5601-1989 ksc5601 " ++
    "ksc_5601 windows-949", .eucKr)]

/-- The names of the other encodings. -/
def otherNames : List (String × Charset) := [
  ("unicode-1-1-utf-8 unicode11utf8 unicode20utf8 utf-8 utf8 x-unicode20utf8", .utf8),
  ("csunicode iso-10646-ucs-2 ucs-2 unicode unicodefeff utf-16 utf-16le", .utf16 false),
  ("unicodefffe utf-16be", .utf16 true),
  ("csiso2022kr hz-gb-2312 iso-2022-cn iso-2022-cn-ext iso-2022-kr replacement", .refused),
  ("x-user-defined", .unassigned)]

namespace Charset

/-- A text is one of the names in a list of them. -/
def isNamed (names : String) (name : List Char) : Bool :=
  (Text.split (· == ' ') names.toList).contains name

/-- The encoding that a name means, in any case and with blanks around it. -/
def ofName? (name : String) : Option Charset :=
  let isBlank (c : Char) : Bool := ['\t', '\n', '\x0c', '\r', ' '].contains c
  let name := (Text.trimOf isBlank name.toList).map Char.toLower
  let other := (otherNames.find? fun row => isNamed row.1 name).map (·.2)
  let multiByte := (multiByteNames.find? fun row => isNamed row.1 name).map fun row =>
    .multiByte row.2
  let bytewise := (bytewiseRows.find? fun row => row.names.any (isNamed · name)).map fun row =>
    .bytewise row.start (row.others.flatMap String.toList)
  (other.or multiByte).or bytewise

/-- The UTF-16 unit of two bytes. -/
def unit (bigEndian : Bool) (a b : UInt8) : Nat :=
  if bigEndian then 256 * a.toNat + b.toNat else 256 * b.toNat + a.toNat

/-- The characters of bytes in UTF-16.  A replacement character stands for a lone surrogate, and
one for all that is left of a character at the end. -/
def decodeUnits (bigEndian : Bool) : List UInt8 → List Char
  | [] => []
  | [_] => [Text.Utf8.replacement]
  | a :: b :: rest =>
    let n := unit bigEndian a b
    if 0xD800 ≤ n && n < 0xDC00 then
      match rest with
      | c :: d :: rest =>
        let m := unit bigEndian c d
        if 0xDC00 ≤ m && m < 0xE000 then
          Char.ofNat (0x10000 + (n - 0xD800) * 0x400 + (m - 0xDC00)) :: decodeUnits bigEndian rest
        else Text.Utf8.replacement :: decodeUnits bigEndian (c :: d :: rest)
      | _ => [Text.Utf8.replacement]
    else
      (if 0xDC00 ≤ n && n < 0xE000 then Text.Utf8.replacement else Char.ofNat n) ::
        decodeUnits bigEndian rest

/-- The text of bytes in an encoding. -/
def decode (decoder : Decoder) : Charset → List UInt8 → List Char
  | utf8, bytes => Text.Utf8.decodeLossy bytes
  | utf16 bigEndian, bytes => decodeUnits bigEndian bytes
  | multiByte encoding, bytes => decoder encoding bytes
  | bytewise start others, bytes => bytes.map fun b =>
      if b.toNat < start then Char.ofNat b.toNat
      else others.getD (b.toNat - start) Text.Utf8.replacement
  | unassigned, bytes => bytes.map fun b =>
      if b < 128 then Char.ofNat b.toNat else Char.ofNat (0xF700 + b.toNat)
  | refused, bytes => if bytes.isEmpty then [] else [Text.Utf8.replacement]

end Charset

end SpamVerdict.Http
