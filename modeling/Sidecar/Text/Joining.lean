/-
# Joining

How the letters of cursive scripts join with their neighbours.

Key definitions: `Text.Joining`, `Text.joining`.
-/
import Sidecar.Text.Spans

namespace Sidecar.Text

/-- Where a letter joins. -/
inductive Joining where
  | none
  /-- With the letter before it. -/
  | right
  /-- With the letter behind it. -/
  | left
  | both
  /-- Nowhere, and its neighbours join as if it were not there. -/
  | transparent
  deriving DecidableEq, Repr

def Joining.ofName (name : List Char) : Joining :=
  match name with
  | ['R'] => .right
  | ['L'] => .left
  | ['D'] => .both
  | ['T'] => .transparent
  | _ => .none

/-- Where letters join: before (`R`), behind (`L`), both (`D`), nowhere (`U`), transparently (`T`). -/
def joiningRows : List String := [
  "0:U 300:T 371:U 483:T 48B:U 591:T 5BE:U 5BF:T 5C0:U 5C1:T 5C3:U 5C4:T 5C6:U 5C7:T 5D0:U 610:T",
  "61B:U 620:D 621:U 622:R 626:D 627:R 628:D 629:R 62A:D 62F:R 633:D 640:U 641:D 648:R 649:D 64B:T",
  "660:U 66E:D 670:T 671:R 674:U 679:D 688:R 69A:D 6C0:R 6C1:D 6C3:R 6CC:D 6CD:R 6CE:D 6CF:R 6D0:D",
  "6D2:R 6D4:U 6D5:R 6D6:T 6DE:U 6DF:T 6E5:U 6E7:T 6E9:U 6EA:T 6EE:R 6F0:U 6FA:D 6FD:U 6FF:D 700:U",
  "710:R 711:T 712:D 715:R 71A:D 71E:R 71F:D 728:R 729:D 72A:R 72B:D 72C:R 72D:D 72F:R 730:T 74D:R",
  "74E:D 759:R 75C:D 76B:R 76D:D 771:R 772:D 773:R 775:D 778:R 77A:D 780:U 7A6:T 7B1:U 7CA:D 7EB:T",
  "7F4:U 7FD:T 7FE:U 816:T 81A:U 81B:T 824:U 825:T 828:U 829:T 830:U 840:R 841:D 846:R 848:D 849:R",
  "84A:D 854:R 855:D 856:R 859:T 85E:U 860:D 861:U 862:D 866:U 867:R 868:D 869:R 883:U 886:D 887:U",
  "889:D 88E:R 88F:D 897:T 8A0:D 8AA:R 8AD:U 8AE:R 8AF:D 8B1:R 8B3:D 8B9:R 8BA:D 8C9:U 8CA:T 903:U",
  "93A:T 93B:U 93C:T 93D:U 941:T 949:U 94D:T 94E:U 951:T 960:U 962:T 964:U 981:T 982:U 9BC:T 9BD:U",
  "9C1:T 9C7:U 9CD:T 9CE:U 9E2:T 9E6:U 9FE:T A03:U A3C:T A3E:U A41:T A5C:U A70:T A72:U A75:T A76:U",
  "A81:T A83:U ABC:T ABD:U AC1:T AC9:U ACD:T AD0:U AE2:T AE6:U AFA:T B02:U B3C:T B3D:U B3F:T B40:U",
  "B41:T B47:U B4D:T B57:U B62:T B66:U B82:T B83:U BC0:T BC1:U BCD:T BD0:U C00:T C01:U C04:T C05:U",
  "C3C:T C3D:U C3E:T C41:U C46:T C58:U C62:T C66:U C81:T C82:U CBC:T CBD:U CBF:T CC0:U CC6:T CC7:U",
  "CCC:T CD5:U CE2:T CE6:U D00:T D02:U D3B:T D3D:U D41:T D46:U D4D:T D4E:U D62:T D66:U D81:T D82:U",
  "DCA:T DCF:U DD2:T DD8:U E31:T E32:U E34:T E3F:U E47:T E4F:U EB1:T EB2:U EB4:T EBD:U EC8:T ED0:U",
  "F18:T F1A:U F35:T F36:U F37:T F38:U F39:T F3A:U F71:T F7F:U F80:T F85:U F86:T F88:U F8D:T FBE:U",
  "FC6:T FC7:U 102D:T 1031:U 1032:T 1038:U 1039:T 103B:U 103D:T 103F:U 1058:T 105A:U 105E:T 1061:U",
  "1071:T 1075:U 1082:T 1083:U 1085:T 1087:U 108D:T 108E:U 109D:T 109E:U 135D:T 1360:U 1712:T",
  "1715:U 1732:T 1734:U 1752:T 1760:U 1772:T 1780:U 17B7:T 17BE:U 17C6:T 17C7:U 17C9:T 17D4:U",
  "17DD:T 17E0:U 1807:D 1808:U 1820:D 1880:U 1885:T 1887:D 18A9:T 18AA:D 18B0:U 1920:T 1923:U",
  "1927:T 1929:U 1932:T 1933:U 1939:T 1940:U 1A17:T 1A19:U 1A1B:T 1A1E:U 1A56:T 1A57:U 1A58:T",
  "1A61:U 1A62:T 1A63:U 1A65:T 1A6D:U 1A73:T 1A80:U 1AB0:T 1B04:U 1B34:T 1B35:U 1B36:T 1B3B:U",
  "1B3C:T 1B3D:U 1B42:T 1B43:U 1B6B:T 1B74:U 1B80:T 1B82:U 1BA2:T 1BA6:U 1BA8:T 1BAA:U 1BAB:T",
  "1BAE:U 1BE6:T 1BE7:U 1BE8:T 1BEA:U 1BED:T 1BEE:U 1BEF:T 1BF2:U 1C2C:T 1C34:U 1C36:T 1C3B:U",
  "1CD0:T 1CD3:U 1CD4:T 1CE1:U 1CE2:T 1CE9:U 1CED:T 1CEE:U 1CF4:T 1CF5:U 1CF8:T 1CFA:U 1DC0:T",
  "1E01:U 20D0:T 2104:U 2CEF:T 2CF3:U 2D7F:T 2D80:U 2DE0:T 2E00:U 302A:T 302E:U 3099:T 309D:U",
  "A66F:T A673:U A674:T A67E:U A69E:T A6A0:U A6F0:T A6F2:U A802:T A803:U A806:T A807:U A80B:T",
  "A80C:U A825:T A827:U A82C:T A830:U A840:D A872:L A873:U A8C4:T A8CE:U A8E0:T A8F2:U A8FF:T",
  "A900:U A926:T A92E:U A947:T A952:U A980:T A983:U A9B3:T A9B4:U A9B6:T A9BA:U A9BC:T A9BE:U",
  "A9E5:T A9E6:U AA29:T AA2F:U AA31:T AA33:U AA35:T AA40:U AA43:T AA44:U AA4C:T AA4D:U AA7C:T",
  "AA7D:U AAB0:T AAB1:U AAB2:T AAB5:U AAB7:T AAB9:U AABE:T AAC0:U AAC1:T AAC2:U AAEC:T AAEE:U",
  "AAF6:T AB01:U ABE5:T ABE6:U ABE8:T ABE9:U ABED:T ABF0:U FB1E:T FBB2:U FE20:T FE45:U 101FD:T",
  "10280:U 102E0:T 102E1:U 10376:T 10380:U 10A01:T 10A10:U 10A38:T 10A40:U 10AC0:D 10AC5:R 10AC6:U",
  "10AC7:R 10AC8:U 10AC9:R 10ACB:U 10ACD:L 10ACE:R 10AD3:D 10AD7:L 10AD8:D 10ADD:R 10ADE:D 10AE1:R",
  "10AE2:U 10AE4:R 10AE5:T 10AEB:D 10AEF:R 10AF0:U 10B80:D 10B81:R 10B82:D 10B83:R 10B86:D 10B89:R",
  "10B8A:D 10B8C:R 10B8D:D 10B8E:R 10B90:D 10B91:R 10B99:U 10BA9:R 10BAD:D 10BAF:U 10D00:L 10D01:D",
  "10D22:R 10D23:D 10D24:T 10D30:U 10D69:T 10D6E:U 10EAB:T 10EAD:U 10EC2:R 10EC3:D 10EC5:U 10EC6:D",
  "10ED0:U 10EFA:T 10F00:U 10F30:D 10F33:R 10F34:D 10F45:U 10F46:T 10F51:D 10F54:R 10F55:U 10F70:D",
  "10F74:R 10F76:D 10F82:T 10F86:U 10FB0:D 10FB1:U 10FB2:D 10FB4:R 10FB7:U 10FB8:D 10FB9:R 10FBB:D",
  "10FBD:R 10FBE:D 10FC0:U 10FC1:D 10FC2:R 10FC4:D 10FC5:U 10FC9:R 10FCA:D 10FCB:L 10FE0:U 11001:T",
  "11002:U 11038:T 11047:U 11070:T 11071:U 11073:T 11075:U 1107F:T 11082:U 110B3:T 110B7:U 110B9:T",
  "110BB:U 110C2:T 110D0:U 11100:T 11103:U 11127:T 1112C:U 1112D:T 11136:U 11173:T 11174:U 11180:T",
  "11182:U 111B6:T 111BF:U 111C9:T 111CD:U 111CF:T 111D0:U 1122F:T 11232:U 11234:T 11235:U 11236:T",
  "11238:U 1123E:T 1123F:U 11241:T 11280:U 112DF:T 112E0:U 112E3:T 112F0:U 11300:T 11302:U 1133B:T",
  "1133D:U 11340:T 11341:U 11366:T 11380:U 113BB:T 113C2:U 113CE:T 113CF:U 113D0:T 113D1:U 113D2:T",
  "113D3:U 113E1:T 11400:U 11438:T 11440:U 11442:T 11445:U 11446:T 11447:U 1145E:T 1145F:U 114B3:T",
  "114B9:U 114BA:T 114BB:U 114BF:T 114C1:U 114C2:T 114C4:U 115B2:T 115B8:U 115BC:T 115BE:U 115BF:T",
  "115C1:U 115DC:T 11600:U 11633:T 1163B:U 1163D:T 1163E:U 1163F:T 11641:U 116AB:T 116AC:U 116AD:T",
  "116AE:U 116B0:T 116B6:U 116B7:T 116B8:U 1171D:T 1171E:U 1171F:T 11720:U 11722:T 11726:U 11727:T",
  "11730:U 1182F:T 11838:U 11839:T 1183B:U 1193B:T 1193D:U 1193E:T 1193F:U 11943:T 11944:U 119D4:T",
  "119DC:U 119E0:T 119E1:U 11A01:T 11A0B:U 11A33:T 11A39:U 11A3B:T 11A3F:U 11A47:T 11A50:U 11A51:T",
  "11A57:U 11A59:T 11A5C:U 11A8A:T 11A97:U 11A98:T 11A9A:U 11B60:T 11B61:U 11B62:T 11B65:U 11B66:T",
  "11B67:U 11C30:T 11C3E:U 11C3F:T 11C40:U 11C92:T 11CA9:U 11CAA:T 11CB1:U 11CB2:T 11CB4:U 11CB5:T",
  "11D00:U 11D31:T 11D46:U 11D47:T 11D50:U 11D90:T 11D93:U 11D95:T 11D96:U 11D97:T 11D98:U 11EF3:T",
  "11EF5:U 11F00:T 11F02:U 11F36:T 11F3E:U 11F40:T 11F41:U 11F42:T 11F43:U 11F5A:T 11FB0:U 13440:T",
  "13441:U 13447:T 13460:U 1611E:T 1612A:U 1612D:T 16130:U 16AF0:T 16AF5:U 16B30:T 16B37:U 16F4F:T",
  "16F50:U 16F8F:T 16F93:U 16FE4:T 16FF0:U 1BC9D:T 1BC9F:U 1CF00:T 1CF50:U 1D167:T 1D16A:U 1D17B:T",
  "1D183:U 1D185:T 1D18C:U 1D1AA:T 1D1AE:U 1D242:T 1D245:U 1DA00:T 1DA37:U 1DA3B:T 1DA6D:U 1DA75:T",
  "1DA76:U 1DA84:T 1DA85:U 1DA9B:T 1DF00:U 1E000:T 1E100:U 1E130:T 1E137:U 1E2AE:T 1E2C0:U 1E2EC:T",
  "1E2F0:U 1E4EC:T 1E4F0:U 1E5EE:T 1E5F0:U 1E6E3:T 1E6E4:U 1E6E6:T 1E6E7:U 1E6EE:T 1E6F0:U 1E6F5:T",
  "1E6FE:U 1E8D0:T 1E922:D 1E944:T 1E950:U"]

/-- The runs of letters that join alike. -/
def joiningSpans : Spans Joining := Spans.ofRows Joining.ofName joiningRows

/-- How a character joins. -/
def joining (c : Char) : Joining := joiningSpans.valueAt .none c.toNat

end Sidecar.Text
