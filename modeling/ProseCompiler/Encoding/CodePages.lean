/-!
# Code pages

The upper half of the encodings that write one octet per character.  Each string lists the
characters of the octets from a first one up to 255; U+FFFD stands for an octet without a
character.  They hold data only.
-/

namespace ProseCompiler.CodePages

def page1250 : String :=
  "€�‚�„…†‡�‰Š‹ŚŤŽŹ�‘’“”•–—�™š›śťžź\xa0ˇ˘Ł¤Ą¦§¨©Ş«¬\xad®Ż°±˛ł´µ¶·¸ąş»Ľ˝ľżŔÁÂĂÄĹĆÇČÉĘËĚÍÎĎ" ++
    "ĐŃŇÓÔŐÖ×ŘŮÚŰÜÝŢßŕáâăäĺćçčéęëěíîďđńňóôőö÷řůúűüýţ˙"

def page1251 : String :=
  "ЂЃ‚ѓ„…†‡€‰Љ‹ЊЌЋЏђ‘’“”•–—�™љ›њќћџ\xa0ЎўЈ¤Ґ¦§Ё©Є«¬\xad®Ї°±Ііґµ¶·ё№є»јЅѕїАБВГДЕЖЗИЙКЛМНОП" ++
    "РСТУФХЦЧШЩЪЫЬЭЮЯабвгдежзийклмнопрстуфхцчшщъыьэюя"

def page1252 : String :=
  "€�‚ƒ„…†‡ˆ‰Š‹Œ�Ž��‘’“”•–—˜™š›œ�žŸ\xa0¡¢£¤¥¦§¨©ª«¬\xad®¯°±²³´µ¶·¸¹º»¼½¾¿ÀÁÂÃÄÅÆÇÈÉÊËÌÍÎÏ" ++
    "ÐÑÒÓÔÕÖ×ØÙÚÛÜÝÞßàáâãäåæçèéêëìíîïðñòóôõö÷øùúûüýþÿ"

def page1253 : String :=
  "€�‚ƒ„…†‡�‰�‹�����‘’“”•–—�™�›����\xa0΅Ά£¤¥¦§¨©�«¬\xad®―°±²³΄µ¶·ΈΉΊ»Ό½ΎΏΐΑΒΓΔΕΖΗΘΙΚΛΜΝΞΟ" ++
    "ΠΡ�ΣΤΥΦΧΨΩΪΫάέήίΰαβγδεζηθικλμνξοπρςστυφχψωϊϋόύώ�"

def page1254 : String :=
  "€�‚ƒ„…†‡ˆ‰Š‹Œ����‘’“”•–—˜™š›œ��Ÿ\xa0¡¢£¤¥¦§¨©ª«¬\xad®¯°±²³´µ¶·¸¹º»¼½¾¿ÀÁÂÃÄÅÆÇÈÉÊËÌÍÎÏ" ++
    "ĞÑÒÓÔÕÖ×ØÙÚÛÜİŞßàáâãäåæçèéêëìíîïğñòóôõö÷øùúûüışÿ"

def page1255 : String :=
  "€�‚ƒ„…†‡ˆ‰�‹�����‘’“”•–—˜™�›����\xa0¡¢£₪¥¦§¨©×«¬\xad®¯°±²³´µ¶·¸¹÷»¼½¾¿\u05b0\u05b1" ++
    "\u05b2\u05b3\u05b4\u05b5\u05b6\u05b7\u05b8\u05b9�\u05bb\u05bc\u05bd\u05be\u05bf\u05c0" ++
    "\u05c1\u05c2\u05c3\u05f0\u05f1\u05f2\u05f3\u05f4�������\u05d0\u05d1\u05d2\u05d3\u05d4" ++
    "\u05d5\u05d6\u05d7\u05d8\u05d9\u05da\u05db\u05dc\u05dd\u05de\u05df\u05e0\u05e1\u05e2" ++
    "\u05e3\u05e4\u05e5\u05e6\u05e7\u05e8\u05e9\u05ea��\u200e\u200f�"

def page1256 : String :=
  "€\u067e‚ƒ„…†‡ˆ‰\u0679‹Œ\u0686\u0698\u0688\u06af‘’“”•–—\u06a9™\u0691›œ\u200c\u200d" ++
    "\u06ba\xa0\u060c¢£¤¥¦§¨©\u06be«¬\xad®¯°±²³´µ¶·¸¹\u061b»¼½¾\u061f\u06c1\u0621\u0622" ++
    "\u0623\u0624\u0625\u0626\u0627\u0628\u0629\u062a\u062b\u062c\u062d\u062e\u062f\u0630" ++
    "\u0631\u0632\u0633\u0634\u0635\u0636×\u0637\u0638\u0639\u063a\u0640\u0641\u0642\u0643à" ++
    "\u0644â\u0645\u0646\u0647\u0648çèéêë\u0649\u064aîï\u064b\u064c\u064d\u064eô\u064f" ++
    "\u0650÷\u0651ù\u0652ûü\u200e\u200f\u06d2"

def page1257 : String :=
  "€�‚�„…†‡�‰�‹�¨ˇ¸�‘’“”•–—�™�›�¯˛�\xa0�¢£¤�¦§Ø©Ŗ«¬\xad®Æ°±²³´µ¶·ø¹ŗ»¼½¾æĄĮĀĆÄÅĘĒČÉŹĖĢĶĪĻ" ++
    "ŠŃŅÓŌÕÖ×ŲŁŚŪÜŻŽßąįāćäåęēčéźėģķīļšńņóōõö÷ųłśūüżž˙"

def page1258 : String :=
  "€�‚ƒ„…†‡ˆ‰�‹Œ����‘’“”•–—˜™�›œ��Ÿ\xa0¡¢£¤¥¦§¨©ª«¬\xad®¯°±²³´µ¶·¸¹º»¼½¾¿ÀÁÂĂÄÅÆÇÈÉÊË" ++
    "\u0300ÍÎÏĐÑ\u0309ÓÔƠÖ×ØÙÚÛÜƯ\u0303ßàáâăäåæçèéêë\u0301íîïđñ\u0323óôơö÷øùúûüư₫ÿ"

def iso8859Part2 : String :=
  "\xa0Ą˘Ł¤ĽŚ§¨ŠŞŤŹ\xadŽŻ°ą˛ł´ľśˇ¸šşťź˝žżŔÁÂĂÄĹĆÇČÉĘËĚÍÎĎĐŃŇÓÔŐÖ×ŘŮÚŰÜÝŢßŕáâăäĺćçčéęëěíîď" ++
    "đńňóôőö÷řůúűüýţ˙"

def iso8859Part3 : String :=
  "\xa0Ħ˘£¤�Ĥ§¨İŞĞĴ\xad�Ż°ħ²³´µĥ·¸ışğĵ½�żÀÁÂ�ÄĊĈÇÈÉÊËÌÍÎÏ�ÑÒÓÔĠÖ×ĜÙÚÛÜŬŜßàáâ�äċĉçèéêëìíîï" ++
    "�ñòóôġö÷ĝùúûüŭŝ˙"

def iso8859Part4 : String :=
  "\xa0ĄĸŖ¤ĨĻ§¨ŠĒĢŦ\xadŽ¯°ą˛ŗ´ĩļˇ¸šēģŧŊžŋĀÁÂÃÄÅÆĮČÉĘËĖÍÎĪĐŅŌĶÔÕÖ×ØŲÚÛÜŨŪßāáâãäåæįčéęëėíîī" ++
    "đņōķôõö÷øųúûüũū˙"

def iso8859Part5 : String :=
  "\xa0ЁЂЃЄЅІЇЈЉЊЋЌ\xadЎЏАБВГДЕЖЗИЙКЛМНОПРСТУФХЦЧШЩЪЫЬЭЮЯабвгдежзийклмнопрстуфхцчшщъыьэюя" ++
    "№ёђѓєѕіїјљњћќ§ўџ"

def iso8859Part6 : String :=
  "\xa0���¤�������\u060c\xad�������������\u061b���\u061f�\u0621\u0622\u0623\u0624\u0625" ++
    "\u0626\u0627\u0628\u0629\u062a\u062b\u062c\u062d\u062e\u062f\u0630\u0631\u0632\u0633" ++
    "\u0634\u0635\u0636\u0637\u0638\u0639\u063a�����\u0640\u0641\u0642\u0643\u0644\u0645" ++
    "\u0646\u0647\u0648\u0649\u064a\u064b\u064c\u064d\u064e\u064f\u0650\u0651\u0652��������" ++
    "�����"

def iso8859Part7 : String :=
  "\xa0‘’£€₯¦§¨©ͺ«¬\xad�―°±²³΄΅Ά·ΈΉΊ»Ό½ΎΏΐΑΒΓΔΕΖΗΘΙΚΛΜΝΞΟΠΡ�ΣΤΥΦΧΨΩΪΫάέήίΰαβγδεζηθικλμνξο" ++
    "πρςστυφχψωϊϋόύώ�"

def iso8859Part8 : String :=
  "\xa0�¢£¤¥¦§¨©×«¬\xad®¯°±²³´µ¶·¸¹÷»¼½¾��������������������������������‗\u05d0\u05d1" ++
    "\u05d2\u05d3\u05d4\u05d5\u05d6\u05d7\u05d8\u05d9\u05da\u05db\u05dc\u05dd\u05de\u05df" ++
    "\u05e0\u05e1\u05e2\u05e3\u05e4\u05e5\u05e6\u05e7\u05e8\u05e9\u05ea��\u200e\u200f�"

def iso8859Part9 : String :=
  "\xa0¡¢£¤¥¦§¨©ª«¬\xad®¯°±²³´µ¶·¸¹º»¼½¾¿ÀÁÂÃÄÅÆÇÈÉÊËÌÍÎÏĞÑÒÓÔÕÖ×ØÙÚÛÜİŞßàáâãäåæçèéêëìíîï" ++
    "ğñòóôõö÷øùúûüışÿ"

def iso8859Part10 : String :=
  "\xa0ĄĒĢĪĨĶ§ĻĐŠŦŽ\xadŪŊ°ąēģīĩķ·ļđšŧž―ūŋĀÁÂÃÄÅÆĮČÉĘËĖÍÎÏÐŅŌÓÔÕÖŨØŲÚÛÜÝÞßāáâãäåæįčéęëėíîï" ++
    "ðņōóôõöũøųúûüýþĸ"

def iso8859Part11 : String :=
  "\xa0\u0e01\u0e02\u0e03\u0e04\u0e05\u0e06\u0e07\u0e08\u0e09\u0e0a\u0e0b\u0e0c\u0e0d" ++
    "\u0e0e\u0e0f\u0e10\u0e11\u0e12\u0e13\u0e14\u0e15\u0e16\u0e17\u0e18\u0e19\u0e1a\u0e1b" ++
    "\u0e1c\u0e1d\u0e1e\u0e1f\u0e20\u0e21\u0e22\u0e23\u0e24\u0e25\u0e26\u0e27\u0e28\u0e29" ++
    "\u0e2a\u0e2b\u0e2c\u0e2d\u0e2e\u0e2f\u0e30\u0e31\u0e32\u0e33\u0e34\u0e35\u0e36\u0e37" ++
    "\u0e38\u0e39\u0e3a����\u0e3f\u0e40\u0e41\u0e42\u0e43\u0e44\u0e45\u0e46\u0e47\u0e48" ++
    "\u0e49\u0e4a\u0e4b\u0e4c\u0e4d\u0e4e\u0e4f\u0e50\u0e51\u0e52\u0e53\u0e54\u0e55\u0e56" ++
    "\u0e57\u0e58\u0e59\u0e5a\u0e5b����"

def iso8859Part13 : String :=
  "\xa0”¢£¤„¦§Ø©Ŗ«¬\xad®Æ°±²³“µ¶·ø¹ŗ»¼½¾æĄĮĀĆÄÅĘĒČÉŹĖĢĶĪĻŠŃŅÓŌÕÖ×ŲŁŚŪÜŻŽßąįāćäåęēčéźėģķīļ" ++
    "šńņóōõö÷ųłśūüżž’"

def iso8859Part14 : String :=
  "\xa0Ḃḃ£ĊċḊ§Ẁ©ẂḋỲ\xad®ŸḞḟĠġṀṁ¶ṖẁṗẃṠỳẄẅṡÀÁÂÃÄÅÆÇÈÉÊËÌÍÎÏŴÑÒÓÔÕÖṪØÙÚÛÜÝŶßàáâãäåæçèéêëìíîï" ++
    "ŵñòóôõöṫøùúûüýŷÿ"

def iso8859Part15 : String :=
  "\xa0¡¢£€¥Š§š©ª«¬\xad®¯°±²³Žµ¶·ž¹º»ŒœŸ¿ÀÁÂÃÄÅÆÇÈÉÊËÌÍÎÏÐÑÒÓÔÕÖ×ØÙÚÛÜÝÞßàáâãäåæçèéêëìíîï" ++
    "ðñòóôõö÷øùúûüýþÿ"

def iso8859Part16 : String :=
  "\xa0ĄąŁ€„Š§š©Ș«Ź\xadźŻ°±ČłŽ”¶·žčș»ŒœŸżÀÁÂĂÄĆÆÇÈÉÊËÌÍÎÏĐŃÒÓÔŐÖŚŰÙÚÛÜĘȚßàáâăäćæçèéêëìíîï" ++
    "đńòóôőöśűùúûüęțÿ"

def koi8r : String :=
  "─│┌┐└┘├┤┬┴┼▀▄█▌▐░▒▓⌠■∙√≈≤≥\xa0⌡°²·÷═║╒ё╓╔╕╖╗╘╙╚╛╜╝╞╟╠╡Ё╢╣╤╥╦╧╨╩╪╫╬©юабцдефгхийклмнопяр" ++
    "стужвьызшэщчъЮАБЦДЕФГХИЙКЛМНОПЯРСТУЖВЬЫЗШЭЩЧЪ"

def koi8u : String :=
  "─│┌┐└┘├┤┬┴┼▀▄█▌▐░▒▓⌠■∙√≈≤≥\xa0⌡°²·÷═║╒ёє╔ії╗╘╙╚╛ґ╝╞╟╠╡ЁЄ╣ІЇ╦╧╨╩╪Ґ╬©юабцдефгхийклмнопяр" ++
    "стужвьызшэщчъЮАБЦДЕФГХИЙКЛМНОПЯРСТУЖВЬЫЗШЭЩЧЪ"

def page437 : String :=
  "ÇüéâäàåçêëèïîìÄÅÉæÆôöòûùÿÖÜ¢£¥₧ƒáíóúñÑªº¿⌐¬½¼¡«»░▒▓│┤╡╢╖╕╣║╗╝╜╛┐└┴┬├─┼╞╟╚╔╩╦╠═╬╧╨╤╥╙╘╒" ++
    "╓╫╪┘┌█▄▌▐▀αßΓπΣσµτΦΘΩδ∞φε∩≡±≥≤⌠⌡÷≈°∙·√ⁿ²■\xa0"

def page850 : String :=
  "ÇüéâäàåçêëèïîìÄÅÉæÆôöòûùÿÖÜø£Ø×ƒáíóúñÑªº¿®¬½¼¡«»░▒▓│┤ÁÂÀ©╣║╗╝¢¥┐└┴┬├─┼ãÃ╚╔╩╦╠═╬¤ðÐÊËÈı" ++
    "ÍÎÏ┘┌█▄¦Ì▀ÓßÔÒõÕµþÞÚÛÙýÝ¯´\xad±‗¾¶§÷¸°¨·¹³²■\xa0"

def page866 : String :=
  "АБВГДЕЖЗИЙКЛМНОПРСТУФХЦЧШЩЪЫЬЭЮЯабвгдежзийклмноп░▒▓│┤╡╢╖╕╣║╗╝╜╛┐└┴┬├─┼╞╟╚╔╩╦╠═╬╧╨╤╥╙╘╒" ++
    "╓╫╪┘┌█▄▌▐▀рстуфхцчшщъыьэюяЁёЄєЇїЎў°∙·√№¤■\xa0"

def macRoman : String :=
  "ÄÅÇÉÑÖÜáàâäãåçéèêëíìîïñóòôöõúùûü†°¢£§•¶ß®©™´¨≠ÆØ∞±≤≥¥µ∂∑∏π∫ªºΩæø¿¡¬√ƒ≈∆«»…\xa0ÀÃÕŒœ–—“" ++
    "”‘’÷◊ÿŸ⁄€‹›ﬁﬂ‡·‚„‰ÂÊÁËÈÍÎÏÌÓÔ\uf8ffÒÚÛÙıˆ˜¯˘˙˚¸˝˛ˇ"

/-- The code pages by name: the first octet that a page lists, and its characters. -/
def byName : List (String × Nat × String) :=
  [("1250", 0x80, page1250), ("cp1250", 0x80, page1250), ("windows_1250", 0x80, page1250),
   ("1251", 0x80, page1251), ("cp1251", 0x80, page1251), ("windows_1251", 0x80, page1251),
   ("1252", 0x80, page1252), ("cp1252", 0x80, page1252), ("windows_1252", 0x80, page1252),
   ("1253", 0x80, page1253), ("cp1253", 0x80, page1253), ("windows_1253", 0x80, page1253),
   ("1254", 0x80, page1254), ("cp1254", 0x80, page1254), ("windows_1254", 0x80, page1254),
   ("1255", 0x80, page1255), ("cp1255", 0x80, page1255), ("windows_1255", 0x80, page1255),
   ("1256", 0x80, page1256), ("cp1256", 0x80, page1256), ("windows_1256", 0x80, page1256),
   ("1257", 0x80, page1257), ("cp1257", 0x80, page1257), ("windows_1257", 0x80, page1257),
   ("1258", 0x80, page1258), ("cp1258", 0x80, page1258), ("windows_1258", 0x80, page1258),
   ("csisolatin2", 0xa0, iso8859Part2), ("iso8859_2", 0xa0, iso8859Part2),
   ("iso_8859_2", 0xa0, iso8859Part2), ("iso_8859_2_1987", 0xa0, iso8859Part2),
   ("iso_ir_101", 0xa0, iso8859Part2), ("l2", 0xa0, iso8859Part2),
   ("latin2", 0xa0, iso8859Part2), ("csisolatin3", 0xa0, iso8859Part3),
   ("iso8859_3", 0xa0, iso8859Part3), ("iso_8859_3", 0xa0, iso8859Part3),
   ("iso_8859_3_1988", 0xa0, iso8859Part3), ("iso_ir_109", 0xa0, iso8859Part3),
   ("l3", 0xa0, iso8859Part3), ("latin3", 0xa0, iso8859Part3),
   ("csisolatin4", 0xa0, iso8859Part4), ("iso8859_4", 0xa0, iso8859Part4),
   ("iso_8859_4", 0xa0, iso8859Part4), ("iso_8859_4_1988", 0xa0, iso8859Part4),
   ("iso_ir_110", 0xa0, iso8859Part4), ("l4", 0xa0, iso8859Part4),
   ("latin4", 0xa0, iso8859Part4), ("csisolatincyrillic", 0xa0, iso8859Part5),
   ("cyrillic", 0xa0, iso8859Part5), ("iso8859_5", 0xa0, iso8859Part5),
   ("iso_8859_5", 0xa0, iso8859Part5), ("iso_8859_5_1988", 0xa0, iso8859Part5),
   ("iso_ir_144", 0xa0, iso8859Part5), ("arabic", 0xa0, iso8859Part6),
   ("asmo_708", 0xa0, iso8859Part6), ("csisolatinarabic", 0xa0, iso8859Part6),
   ("ecma_114", 0xa0, iso8859Part6), ("iso8859_6", 0xa0, iso8859Part6),
   ("iso_8859_6", 0xa0, iso8859Part6), ("iso_8859_6_1987", 0xa0, iso8859Part6),
   ("iso_ir_127", 0xa0, iso8859Part6), ("csisolatingreek", 0xa0, iso8859Part7),
   ("ecma_118", 0xa0, iso8859Part7), ("elot_928", 0xa0, iso8859Part7),
   ("greek", 0xa0, iso8859Part7), ("greek8", 0xa0, iso8859Part7),
   ("iso8859_7", 0xa0, iso8859Part7), ("iso_8859_7", 0xa0, iso8859Part7),
   ("iso_8859_7_1987", 0xa0, iso8859Part7), ("iso_ir_126", 0xa0, iso8859Part7),
   ("csisolatinhebrew", 0xa0, iso8859Part8), ("hebrew", 0xa0, iso8859Part8),
   ("iso8859_8", 0xa0, iso8859Part8), ("iso_8859_8", 0xa0, iso8859Part8),
   ("iso_8859_8_1988", 0xa0, iso8859Part8), ("iso_ir_138", 0xa0, iso8859Part8),
   ("csisolatin5", 0xa0, iso8859Part9), ("iso8859_9", 0xa0, iso8859Part9),
   ("iso_8859_9", 0xa0, iso8859Part9), ("iso_8859_9_1989", 0xa0, iso8859Part9),
   ("iso_ir_148", 0xa0, iso8859Part9), ("l5", 0xa0, iso8859Part9),
   ("latin5", 0xa0, iso8859Part9), ("csisolatin6", 0xa0, iso8859Part10),
   ("iso8859_10", 0xa0, iso8859Part10), ("iso_8859_10", 0xa0, iso8859Part10),
   ("iso_8859_10_1992", 0xa0, iso8859Part10), ("iso_ir_157", 0xa0, iso8859Part10),
   ("l6", 0xa0, iso8859Part10), ("latin6", 0xa0, iso8859Part10),
   ("iso8859_11", 0xa0, iso8859Part11), ("iso_8859_11", 0xa0, iso8859Part11),
   ("iso_8859_11_2001", 0xa0, iso8859Part11), ("thai", 0xa0, iso8859Part11),
   ("iso8859_13", 0xa0, iso8859Part13), ("iso_8859_13", 0xa0, iso8859Part13),
   ("l7", 0xa0, iso8859Part13), ("latin7", 0xa0, iso8859Part13),
   ("iso8859_14", 0xa0, iso8859Part14), ("iso_8859_14", 0xa0, iso8859Part14),
   ("iso_8859_14_1998", 0xa0, iso8859Part14), ("iso_celtic", 0xa0, iso8859Part14),
   ("iso_ir_199", 0xa0, iso8859Part14), ("l8", 0xa0, iso8859Part14),
   ("latin8", 0xa0, iso8859Part14), ("iso8859_15", 0xa0, iso8859Part15),
   ("iso_8859_15", 0xa0, iso8859Part15), ("l9", 0xa0, iso8859Part15),
   ("latin9", 0xa0, iso8859Part15), ("iso8859_16", 0xa0, iso8859Part16),
   ("iso_8859_16", 0xa0, iso8859Part16), ("iso_8859_16_2001", 0xa0, iso8859Part16),
   ("iso_ir_226", 0xa0, iso8859Part16), ("l10", 0xa0, iso8859Part16),
   ("latin10", 0xa0, iso8859Part16), ("cskoi8r", 0x80, koi8r), ("koi8_r", 0x80, koi8r),
   ("koi8_u", 0x80, koi8u), ("437", 0x80, page437), ("cp437", 0x80, page437),
   ("cspc8codepage437", 0x80, page437), ("ibm437", 0x80, page437), ("850", 0x80, page850),
   ("cp850", 0x80, page850), ("cspc850multilingual", 0x80, page850), ("ibm850", 0x80, page850),
   ("866", 0x80, page866), ("cp866", 0x80, page866), ("csibm866", 0x80, page866),
   ("ibm866", 0x80, page866), ("mac_roman", 0x80, macRoman), ("macintosh", 0x80, macRoman),
   ("macroman", 0x80, macRoman)]

end ProseCompiler.CodePages
