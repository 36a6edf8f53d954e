import Bazaar.Text.Charset.Table

/-!
# Charsets of single scripts

Charsets that keep ASCII and a row of control characters, and add the letters of one script or of
the languages of one region.
-/

namespace Bazaar.Text.Charset

/-- The charsets of single scripts. -/
def isoTables : List Table :=
  [⟨"iso8859_2", ["csisolatin2", "iso_8859_2", "iso_8859_2_1987", "iso_ir_101", "l2", "latin2"],
    ["Ą˘Ł¤ĽŚ§¨ŠŞŤŹ\xadŽŻ", "°ą˛ł´ľśˇ¸šşťź˝žż", "ŔÁÂĂÄĹĆÇČÉĘËĚÍÎĎ", "ĐŃŇÓÔŐÖ×ŘŮÚŰÜÝŢß",
     "ŕáâăäĺćçčéęëěíîď", "đńňóôőö÷řůúűüýţ˙"]⟩,
   ⟨"iso8859_3", ["csisolatin3", "iso_8859_3", "iso_8859_3_1988", "iso_ir_109", "l3", "latin3"],
    ["Ħ˘£¤\uFFFDĤ§¨İŞĞĴ\xad\uFFFDŻ", "°ħ²³´µĥ·¸ışğĵ½\uFFFDż", "ÀÁÂ\uFFFDÄĊĈÇÈÉÊËÌÍÎÏ",
     "\uFFFDÑÒÓÔĠÖ×ĜÙÚÛÜŬŜß", "àáâ\uFFFDäċĉçèéêëìíîï", "\uFFFDñòóôġö÷ĝùúûüŭŝ˙"]⟩,
   ⟨"iso8859_4", ["csisolatin4", "iso_8859_4", "iso_8859_4_1988", "iso_ir_110", "l4", "latin4"],
    ["ĄĸŖ¤ĨĻ§¨ŠĒĢŦ\xadŽ¯", "°ą˛ŗ´ĩļˇ¸šēģŧŊžŋ", "ĀÁÂÃÄÅÆĮČÉĘËĖÍÎĪ", "ĐŅŌĶÔÕÖ×ØŲÚÛÜŨŪß",
     "āáâãäåæįčéęëėíîī", "đņōķôõö÷øųúûüũū˙"]⟩,
   ⟨"iso8859_5", ["csisolatincyrillic", "cyrillic", "iso_8859_5", "iso_8859_5_1988",
      "iso_ir_144"],
    ["ЁЂЃЄЅІЇЈЉЊЋЌ\xadЎЏ", "АБВГДЕЖЗИЙКЛМНОП", "РСТУФХЦЧШЩЪЫЬЭЮЯ", "абвгдежзийклмноп",
     "рстуфхцчшщъыьэюя", "№ёђѓєѕіїјљњћќ§ўџ"]⟩,
   ⟨"iso8859_6", ["arabic", "asmo_708", "csisolatinarabic", "ecma_114", "iso_8859_6",
      "iso_8859_6_1987", "iso_ir_127"],
    ["\uFFFD\uFFFD\uFFFD¤\uFFFD\uFFFD\uFFFD\uFFFD\uFFFD\uFFFD\uFFFD،\xad\uFFFD\uFFFD",
     "\uFFFD\uFFFD\uFFFD\uFFFD\uFFFD\uFFFD\uFFFD\uFFFD",
     "\uFFFD\uFFFD\uFFFD\u061B\uFFFD\uFFFD\uFFFD\u061F",
     "\uFFFD\u0621\u0622\u0623\u0624\u0625\u0626\u0627",
     "\u0628\u0629\u062A\u062B\u062C\u062D\u062E\u062F",
     "\u0630\u0631\u0632\u0633\u0634\u0635\u0636\u0637",
     "\u0638\u0639\u063A\uFFFD\uFFFD\uFFFD\uFFFD\uFFFD",
     "\u0640\u0641\u0642\u0643\u0644\u0645\u0646\u0647",
     "\u0648\u0649\u064A\u064B\u064C\u064D\u064E\u064F",
     "\u0650\u0651\u0652\uFFFD\uFFFD\uFFFD\uFFFD\uFFFD",
     "\uFFFD\uFFFD\uFFFD\uFFFD\uFFFD\uFFFD\uFFFD\uFFFD"]⟩,
   ⟨"iso8859_7", ["csisolatingreek", "ecma_118", "elot_928", "greek", "greek8", "iso_8859_7",
      "iso_8859_7_1987", "iso_ir_126"],
    ["‘’£€₯¦§¨©ͺ«¬\xad\uFFFD―", "°±²³΄΅Ά·ΈΉΊ»Ό½ΎΏ", "ΐΑΒΓΔΕΖΗΘΙΚΛΜΝΞΟ", "ΠΡ\uFFFDΣΤΥΦΧΨΩΪΫάέήί",
     "ΰαβγδεζηθικλμνξο", "πρςστυφχψωϊϋόύώ\uFFFD"]⟩,
   ⟨"iso8859_8", ["csisolatinhebrew", "hebrew", "iso_8859_8", "iso_8859_8_1988", "iso_ir_138"],
    ["\uFFFD¢£¤¥¦§¨©×«¬\xad®¯", "°±²³´µ¶·¸¹÷»¼½¾\uFFFD",
     "\uFFFD\uFFFD\uFFFD\uFFFD\uFFFD\uFFFD\uFFFD\uFFFD",
     "\uFFFD\uFFFD\uFFFD\uFFFD\uFFFD\uFFFD\uFFFD\uFFFD",
     "\uFFFD\uFFFD\uFFFD\uFFFD\uFFFD\uFFFD\uFFFD\uFFFD\uFFFD\uFFFD\uFFFD\uFFFD\uFFFD\uFFFD\uFFFD‗",
     "\u05D0\u05D1\u05D2\u05D3\u05D4\u05D5\u05D6\u05D7",
     "\u05D8\u05D9\u05DA\u05DB\u05DC\u05DD\u05DE\u05DF",
     "\u05E0\u05E1\u05E2\u05E3\u05E4\u05E5\u05E6\u05E7",
     "\u05E8\u05E9\u05EA\uFFFD\uFFFD\u200E\u200F\uFFFD"]⟩,
   ⟨"iso8859_9", ["csisolatin5", "iso_8859_9", "iso_8859_9_1989", "iso_ir_148", "l5", "latin5"],
    ["ĞÑÒÓÔÕÖ×ØÙÚÛÜİŞß", "àáâãäåæçèéêëìíîï", "ğñòóôõö÷øùúûüışÿ"]⟩,
   ⟨"iso8859_10", ["csisolatin6", "iso_8859_10", "iso_8859_10_1992", "iso_ir_157", "l6",
      "latin6"],
    ["ĄĒĢĪĨĶ§ĻĐŠŦŽ\xadŪŊ", "°ąēģīĩķ·ļđšŧž―ūŋ", "ĀÁÂÃÄÅÆĮČÉĘËĖÍÎÏ", "ÐŅŌÓÔÕÖŨØŲÚÛÜÝÞß",
     "āáâãäåæįčéęëėíîï", "ðņōóôõöũøųúûüýþĸ"]⟩,
   ⟨"iso8859_11", ["thai", "iso_8859_11", "iso_8859_11_2001"],
    ["กขฃคฅฆงจฉชซฌญฎฏ", "ฐฑฒณดตถทธนบปผฝพฟ", "ภมยรฤลฦวศษสหฬอฮฯ",
     "ะ\u0E31าำ\u0E34\u0E35\u0E36\u0E37\u0E38\u0E39\u0E3A\uFFFD\uFFFD\uFFFD\uFFFD฿",
     "เแโใไๅๆ\u0E47\u0E48\u0E49\u0E4A\u0E4B\u0E4C\u0E4D\u0E4E๏",
     "๐๑๒๓๔๕๖๗๘๙๚๛\uFFFD\uFFFD\uFFFD\uFFFD"]⟩,
   ⟨"iso8859_13", ["iso_8859_13", "l7", "latin7"],
    ["”¢£¤„¦§Ø©Ŗ«¬\xad®Æ", "°±²³“µ¶·ø¹ŗ»¼½¾æ", "ĄĮĀĆÄÅĘĒČÉŹĖĢĶĪĻ", "ŠŃŅÓŌÕÖ×ŲŁŚŪÜŻŽß",
     "ąįāćäåęēčéźėģķīļ", "šńņóōõö÷ųłśūüżž’"]⟩,
   ⟨"iso8859_14", ["iso_8859_14", "iso_8859_14_1998", "iso_celtic", "iso_ir_199", "l8",
      "latin8"],
    ["Ḃḃ£ĊċḊ§Ẁ©ẂḋỲ\xad®Ÿ", "ḞḟĠġṀṁ¶ṖẁṗẃṠỳẄẅṡ", "ÀÁÂÃÄÅÆÇÈÉÊËÌÍÎÏ", "ŴÑÒÓÔÕÖṪØÙÚÛÜÝŶß",
     "àáâãäåæçèéêëìíîï", "ŵñòóôõöṫøùúûüýŷÿ"]⟩,
   ⟨"iso8859_15", ["iso_8859_15", "l9", "latin9"],
    ["€¥Š§š©ª«¬\xad®¯", "°±²³Žµ¶·ž¹º»ŒœŸ¿", "ÀÁÂÃÄÅÆÇÈÉÊËÌÍÎÏ", "ÐÑÒÓÔÕÖ×ØÙÚÛÜÝÞß",
     "àáâãäåæçèéêëìíîï", "ðñòóôõö÷øùúûüýþÿ"]⟩,
   ⟨"iso8859_16", ["iso_8859_16", "iso_8859_16_2001", "iso_ir_226", "l10", "latin10"],
    ["ĄąŁ€„Š§š©Ș«Ź\xadźŻ", "°±ČłŽ”¶·žčș»ŒœŸż", "ÀÁÂĂÄĆÆÇÈÉÊËÌÍÎÏ", "ĐŃÒÓÔŐÖŚŰÙÚÛÜĘȚß",
     "àáâăäćæçèéêëìíîï", "đńòóôőöśűùúûüęțÿ"]⟩,
   ⟨"tis_620", ["tis620", "tis_620_0", "tis_620_2529_0", "tis_620_2529_1", "iso_ir_166"],
    ["\uFFFDกขฃคฅฆงจฉชซฌญฎฏ", "ฐฑฒณดตถทธนบปผฝพฟ", "ภมยรฤลฦวศษสหฬอฮฯ",
     "ะ\u0E31าำ\u0E34\u0E35\u0E36\u0E37\u0E38\u0E39\u0E3A\uFFFD\uFFFD\uFFFD\uFFFD฿",
     "เแโใไๅๆ\u0E47\u0E48\u0E49\u0E4A\u0E4B\u0E4C\u0E4D\u0E4E๏",
     "๐๑๒๓๔๕๖๗๘๙๚๛\uFFFD\uFFFD\uFFFD\uFFFD"]⟩,
   ⟨"hp_roman8", ["roman8", "r8", "cp1051", "ibm1051"],
    ["ÀÂÈÊËÎÏ´ˋˆ¨˜ÙÛ₤", "¯Ýý°ÇçÑñ¡¿¤£¥§ƒ¢", "âêôûáéóúàèòùäëöü", "ÅîØÆåíøæÄìÖÜÉïßÔ",
     "ÁÃãÐðÍÌÓÒÕõŠšÚŸÿ", "Þþ·µ¶¾—¼½ªº«■»±\uFFFD"]⟩,
   ⟨"koi8_r", ["cskoi8r"],
    ["─│┌┐└┘├┤┬┴┼▀▄█▌▐", "░▒▓⌠■∙√≈≤≥\xa0⌡°²·÷", "═║╒ё╓╔╕╖╗╘╙╚╛╜╝╞", "╟╠╡Ё╢╣╤╥╦╧╨╩╪╫╬©",
     "юабцдефгхийклмно", "пярстужвьызшэщчъ", "ЮАБЦДЕФГХИЙКЛМНО", "ПЯРСТУЖВЬЫЗШЭЩЧЪ"]⟩,
   ⟨"koi8_u", [],
    ["─│┌┐└┘├┤┬┴┼▀▄█▌▐", "░▒▓⌠■∙√≈≤≥\xa0⌡°²·÷", "═║╒ёє╔ії╗╘╙╚╛ґ╝╞", "╟╠╡ЁЄ╣ІЇ╦╧╨╩╪Ґ╬©",
     "юабцдефгхийклмно", "пярстужвьызшэщчъ", "ЮАБЦДЕФГХИЙКЛМНО", "ПЯРСТУЖВЬЫЗШЭЩЧЪ"]⟩,
   ⟨"koi8_t", [],
    ["қғ‚Ғ„…†‡\uFFFD‰ҳ‹ҲҷҶ\uFFFD", "Қ‘’“”•–—\uFFFD™\uFFFD›\uFFFD\uFFFD\uFFFD\uFFFD",
     "\uFFFDӯӮё¤ӣ¦§\uFFFD\uFFFD\uFFFD«¬\xad®\uFFFD",
     "°±²Ё\uFFFDӢ¶·\uFFFD№\uFFFD»\uFFFD\uFFFD\uFFFD©", "юабцдефгхийклмно", "пярстужвьызшэщчъ",
     "ЮАБЦДЕФГХИЙКЛМНО", "ПЯРСТУЖВЬЫЗШЭЩЧЪ"]⟩,
   ⟨"kz1048", ["kz_1048", "rk1048", "strk1048_2002"],
    ["ЂЃ‚ѓ„…†‡€‰Љ‹ЊҚҺЏ", "ђ‘’“”•–—\uFFFD™љ›њқһџ", "\xa0ҰұӘ¤Ө¦§Ё©Ғ«¬\xad®Ү", "°±Ііөµ¶·ё№ғ»әҢңү",
     "АБВГДЕЖЗИЙКЛМНОП", "РСТУФХЦЧШЩЪЫЬЭЮЯ", "абвгдежзийклмноп", "рстуфхцчшщъыьэюя"]⟩,
   ⟨"ptcp154", ["csptcp154", "pt154", "cp154", "cyrillic_asian"],
    ["ҖҒӮғ„…ҶҮҲүҠӢҢҚҺҸ", "җ‘’“”•–—ҳҷҡӣңқһҹ", "\xa0ЎўЈӨҘҰ§Ё©Ә«¬ӯ®Ҝ", "°ұІіҙө¶·ё№ә»јҪҫҝ",
     "АБВГДЕЖЗИЙКЛМНОП", "РСТУФХЦЧШЩЪЫЬЭЮЯ", "абвгдежзийклмноп", "рстуфхцчшщъыьэюя"]⟩,
   ⟨"cp1006", [],
    ["۰۱۲۳۴۵۶۷۸۹،\u061B\xad\u061F\uFE81",
     "\uFE8D\uFE8E\uFE8E\uFE8F\uFE91\uFB56\uFB58\uFE93",
     "\uFE95\uFE97\uFB66\uFB68\uFE99\uFE9B\uFE9D\uFE9F",
     "\uFB7A\uFB7C\uFEA1\uFEA3\uFEA5\uFEA7\uFEA9\uFB84",
     "\uFEAB\uFEAD\uFB8C\uFEAF\uFB8A\uFEB1\uFEB3\uFEB5",
     "\uFEB7\uFEB9\uFEBB\uFEBD\uFEBF\uFEC1\uFEC5\uFEC9",
     "\uFECA\uFECB\uFECC\uFECD\uFECE\uFECF\uFED0\uFED1",
     "\uFED3\uFED5\uFED7\uFED9\uFEDB\uFB92\uFB94\uFEDD",
     "\uFEDF\uFEE0\uFEE1\uFEE3\uFB9E\uFEE5\uFEE7\uFE85",
     "\uFEED\uFBA6\uFBA8\uFBA9\uFBAA\uFE80\uFE89\uFE8A",
     "\uFE8B\uFEF1\uFEF2\uFEF3\uFBB0\uFBAE\uFE7C\uFE7D"]⟩,
   ⟨"palmos", [],
    ["€\x81‚ƒ„…†‡ˆ‰Š‹Œ♦♣♥", "♠‘’“”•–—˜™š\x9bœ\x9d\x9eŸ", "\xa0¡¢£¤¥¦§¨©ª«¬\xad®¯",
     "°±²³´µ¶·¸¹º»¼½¾¿", "ÀÁÂÃÄÅÆÇÈÉÊËÌÍÎÏ", "ÐÑÒÓÔÕÖ×ØÙÚÛÜÝÞß", "àáâãäåæçèéêëìíîï",
     "ðñòóôõö÷øùúûüýþÿ"]⟩]

end Bazaar.Text.Charset
