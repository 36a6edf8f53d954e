import Bazaar.Text.Charset.Table

/-!
# Charsets with punctuation

Charsets that keep ASCII and fill the row of control characters with punctuation.
-/

namespace Bazaar.Text.Charset

/-- The charsets with punctuation. -/
def windowsTables : List Table :=
  [⟨"cp874", [],
    ["€\uFFFD\uFFFD\uFFFD\uFFFD…\uFFFD\uFFFD\uFFFD\uFFFD\uFFFD\uFFFD\uFFFD\uFFFD\uFFFD\uFFFD",
     "\uFFFD‘’“”•–—\uFFFD\uFFFD\uFFFD\uFFFD\uFFFD\uFFFD\uFFFD\uFFFD", "\xa0กขฃคฅฆงจฉชซฌญฎฏ",
     "ฐฑฒณดตถทธนบปผฝพฟ", "ภมยรฤลฦวศษสหฬอฮฯ",
     "ะ\u0E31าำ\u0E34\u0E35\u0E36\u0E37\u0E38\u0E39\u0E3A\uFFFD\uFFFD\uFFFD\uFFFD฿",
     "เแโใไๅๆ\u0E47\u0E48\u0E49\u0E4A\u0E4B\u0E4C\u0E4D\u0E4E๏",
     "๐๑๒๓๔๕๖๗๘๙๚๛\uFFFD\uFFFD\uFFFD\uFFFD"]⟩,
   ⟨"cp1250", ["1250", "windows_1250"],
    ["€\uFFFD‚\uFFFD„…†‡\uFFFD‰Š‹ŚŤŽŹ", "\uFFFD‘’“”•–—\uFFFD™š›śťžź", "\xa0ˇ˘Ł¤Ą¦§¨©Ş«¬\xad®Ż",
     "°±˛ł´µ¶·¸ąş»Ľ˝ľż", "ŔÁÂĂÄĹĆÇČÉĘËĚÍÎĎ", "ĐŃŇÓÔŐÖ×ŘŮÚŰÜÝŢß", "ŕáâăäĺćçčéęëěíîď",
     "đńňóôőö÷řůúűüýţ˙"]⟩,
   ⟨"cp1251", ["1251", "windows_1251"],
    ["ЂЃ‚ѓ„…†‡€‰Љ‹ЊЌЋЏ", "ђ‘’“”•–—\uFFFD™љ›њќћџ", "\xa0ЎўЈ¤Ґ¦§Ё©Є«¬\xad®Ї", "°±Ііґµ¶·ё№є»јЅѕї",
     "АБВГДЕЖЗИЙКЛМНОП", "РСТУФХЦЧШЩЪЫЬЭЮЯ", "абвгдежзийклмноп", "рстуфхцчшщъыьэюя"]⟩,
   ⟨"cp1252", ["1252", "windows_1252"],
    ["€\uFFFD‚ƒ„…†‡ˆ‰Š‹Œ\uFFFDŽ\uFFFD", "\uFFFD‘’“”•–—˜™š›œ\uFFFDžŸ", "\xa0¡¢£¤¥¦§¨©ª«¬\xad®¯",
     "°±²³´µ¶·¸¹º»¼½¾¿", "ÀÁÂÃÄÅÆÇÈÉÊËÌÍÎÏ", "ÐÑÒÓÔÕÖ×ØÙÚÛÜÝÞß", "àáâãäåæçèéêëìíîï",
     "ðñòóôõö÷øùúûüýþÿ"]⟩,
   ⟨"cp1253", ["1253", "windows_1253"],
    ["€\uFFFD‚ƒ„…†‡\uFFFD‰\uFFFD‹\uFFFD\uFFFD\uFFFD\uFFFD",
     "\uFFFD‘’“”•–—\uFFFD™\uFFFD›\uFFFD\uFFFD\uFFFD\uFFFD", "\xa0΅Ά£¤¥¦§¨©\uFFFD«¬\xad®―",
     "°±²³΄µ¶·ΈΉΊ»Ό½ΎΏ", "ΐΑΒΓΔΕΖΗΘΙΚΛΜΝΞΟ", "ΠΡ\uFFFDΣΤΥΦΧΨΩΪΫάέήί", "ΰαβγδεζηθικλμνξο",
     "πρςστυφχψωϊϋόύώ\uFFFD"]⟩,
   ⟨"cp1254", ["1254", "windows_1254"],
    ["€\uFFFD‚ƒ„…†‡ˆ‰Š‹Œ\uFFFD\uFFFD\uFFFD", "\uFFFD‘’“”•–—˜™š›œ\uFFFD\uFFFDŸ",
     "\xa0¡¢£¤¥¦§¨©ª«¬\xad®¯", "°±²³´µ¶·¸¹º»¼½¾¿", "ÀÁÂÃÄÅÆÇÈÉÊËÌÍÎÏ", "ĞÑÒÓÔÕÖ×ØÙÚÛÜİŞß",
     "àáâãäåæçèéêëìíîï", "ğñòóôõö÷øùúûüışÿ"]⟩,
   ⟨"cp1255", ["1255", "windows_1255"],
    ["€\uFFFD‚ƒ„…†‡ˆ‰\uFFFD‹\uFFFD\uFFFD\uFFFD\uFFFD",
     "\uFFFD‘’“”•–—˜™\uFFFD›\uFFFD\uFFFD\uFFFD\uFFFD", "\xa0¡¢£₪¥¦§¨©×«¬\xad®¯",
     "°±²³´µ¶·¸¹÷»¼½¾¿",
     "\u05B0\u05B1\u05B2\u05B3\u05B4\u05B5\u05B6\u05B7",
     "\u05B8\u05B9\uFFFD\u05BB\u05BC\u05BD\u05BE\u05BF",
     "\u05C0\u05C1\u05C2\u05C3\u05F0\u05F1\u05F2\u05F3",
     "\u05F4\uFFFD\uFFFD\uFFFD\uFFFD\uFFFD\uFFFD\uFFFD",
     "\u05D0\u05D1\u05D2\u05D3\u05D4\u05D5\u05D6\u05D7",
     "\u05D8\u05D9\u05DA\u05DB\u05DC\u05DD\u05DE\u05DF",
     "\u05E0\u05E1\u05E2\u05E3\u05E4\u05E5\u05E6\u05E7",
     "\u05E8\u05E9\u05EA\uFFFD\uFFFD\u200E\u200F\uFFFD"]⟩,
   ⟨"cp1256", ["1256", "windows_1256"],
    ["€\u067E‚ƒ„…†‡ˆ‰\u0679‹Œ\u0686\u0698\u0688",
     "\u06AF‘’“”•–—\u06A9™\u0691›œ\u200C\u200D\u06BA", "\xa0،¢£¤¥¦§¨©\u06BE«¬\xad®¯",
     "°±²³´µ¶·¸¹\u061B»¼½¾\u061F",
     "\u06C1\u0621\u0622\u0623\u0624\u0625\u0626\u0627",
     "\u0628\u0629\u062A\u062B\u062C\u062D\u062E\u062F",
     "\u0630\u0631\u0632\u0633\u0634\u0635\u0636×\u0637\u0638\u0639\u063A\u0640\u0641\u0642\u0643",
     "à\u0644â\u0645\u0646\u0647\u0648çèéêë\u0649\u064Aîï",
     "\u064B\u064C\u064D\u064Eô\u064F\u0650÷\u0651ù\u0652ûü\u200E\u200F\u06D2"]⟩,
   ⟨"cp1257", ["1257", "windows_1257"],
    ["€\uFFFD‚\uFFFD„…†‡\uFFFD‰\uFFFD‹\uFFFD¨ˇ¸", "\uFFFD‘’“”•–—\uFFFD™\uFFFD›\uFFFD¯˛\uFFFD",
     "\xa0\uFFFD¢£¤\uFFFD¦§Ø©Ŗ«¬\xad®Æ", "°±²³´µ¶·ø¹ŗ»¼½¾æ", "ĄĮĀĆÄÅĘĒČÉŹĖĢĶĪĻ",
     "ŠŃŅÓŌÕÖ×ŲŁŚŪÜŻŽß", "ąįāćäåęēčéźėģķīļ", "šńņóōõö÷ųłśūüżž˙"]⟩,
   ⟨"cp1258", ["1258", "windows_1258"],
    ["€\uFFFD‚ƒ„…†‡ˆ‰\uFFFD‹Œ\uFFFD\uFFFD\uFFFD", "\uFFFD‘’“”•–—˜™\uFFFD›œ\uFFFD\uFFFDŸ",
     "\xa0¡¢£¤¥¦§¨©ª«¬\xad®¯", "°±²³´µ¶·¸¹º»¼½¾¿", "ÀÁÂĂÄÅÆÇÈÉÊË\u0300ÍÎÏ",
     "ĐÑ\u0309ÓÔƠÖ×ØÙÚÛÜƯ\u0303ß", "àáâăäåæçèéêë\u0301íîï", "đñ\u0323óôơö÷øùúûüư₫ÿ"]⟩]

end Bazaar.Text.Charset
