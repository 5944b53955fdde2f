namespace RecordPattern.Text.CharName

-- Further names: corrections, abbreviations and the names of control characters.
def aliases : String :=
  "+0aNUL+0aNULLaSOH+1aSTART OF HEADINGcTEXT+2aSTXaEND OF TEXT+3aETXaEND OF TRANSMISSION+4aEOTaENQ
  +5aENQUIRYaACK+6aACKNOWLEDGEaALERT+7aBELaBACKSPACE+8aBSaCHARACTER TABULATION+9abHORIZONTAL+9aHT
  +9aTABaEND OF LINE+AaEOL+AaLF+AaLINE FEED+AaNEW LINE+AaNLaLINE TABULATION+BabVERTICAL+BaVTaFF
  +CaFORM FEEDaCARRIAGE RETURN+DaCRaLOCKING-SHIFT ONE+EaSHIFT OUT+EaSOaLOCKING-SHIFT ZERO+FaSHIFT IN
  +FaSIaDATA LINK ESCAPE+10aDLEaDC1+11aDEVICE CONTROL ONEaDC2+12aDEVICE CONTROL TWOaDC3
  +13aDEVICE CONTROL THREEaDC4+14aDEVICE CONTROL FOURaNAK+15aNEGATIVE ACKNOWLEDGEaSYN
  +16aSYNCHRONOUS IDLEaEND OF TRANSMISSION BLOCK+17aETBaCAN+18aCANCELaEND OF MEDIUM+19aEOMaSUB
  +1AaSUBSTITUTEaESC+1BaESCAPEaFILE SEPARATOR+1CaFS+1CaINFORMATION SEPARATOR FOURaGROUP SEPARATOR
  +1DaGS+1DaINFORMATION SEPARATOR THREEcTWO+1EaRECORD SEPARATOR+1EaRSaINFORMATION SEPARATOR ONE
  +1FaUNIT SEPARATOR+1FaUSaSP+7FaDEL+7FaDELETEaPAD+80aPADDING CHARACTERaHIGH OCTET PRESET+81aHOPaBPH
  +82aBREAK PERMITTED HEREaNBH+83aNO BREAK HEREaIND+84aINDEXaNEL+85aNEXT LINEaSSA
  +86aSTART OF SELECTED AREAadEND+87aESAaCHARACTER TABULATION SET+88acHORIZONTAL+88aHTS
  aCHARACTER TABULATION WITH JUSTIFICATION+89adHORIZONTAL+89aHTJaLINE TABULATION SET+8AacVERTICAL
  +8AaVTSaPARTIAL LINE DOWN+8BcFORWARD+8BaPLDaPARTIAL LINE BACKWARD+8CcUP+8CaPLUaREVERSE INDEX
  +8DbLINE FEED+8DaRIaSINGLE SHIFT TWO+8EaSINGLE-SHIFT-2+8EaSS2aSINGLE SHIFT THREE+8FaSINGLE-SHIFT-3
  +8FaSS3aDCS+90aDEVICE CONTROL STRINGaPRIVATE USE ONE+91bUSE-1+91aPU1aPRIVATE USE TWO+92bUSE-2
  +92aPU2aSET TRANSMIT STATE+93aSTSaCANCEL CHARACTER+94aCCHaMESSAGE WAITING+95aMWaSPA
  +96aSTART OF GUARDED AREA+96cbPROTECTEDabEND OF GUARDED+97cbPROTECTED+97aEPAaSOS
  +98aSTART OF STRINGaSGC+99aSINGLE GRAPHIC CHARACTER INTRODUCERaSCI+9AaSINGLE CHARACTER INTRODUCER
  abCONTROL SEQUENCE+9BaCSIaST+9CaSTRING TERMINATORaOPERATING SYSTEM COMMAND+9DaOSCaPM
  +9EaPRIVACY MESSAGEaAPC+9FaAPPLICATION PROGRAM COMMANDaNBSP+ADaSHY+1A2aLATIN CAPITAL LETTER GHA
  bcSMALL+34FaCGJ+61CaALM+709aSYRIAC SUBLINEAR COLON SKEWED LEFT+CDEaKANNADA LETTER LLLA
  +E9DaLAO LETTER FO FON+E9FdFAY+EA3cRO+EA5cLO+FD0aTIBETAN MARK BKA- SHOG GI MGO RGYAN
  +11ECaHANGUL JONGSEONG YESIEUNG-KIYEOKcYESIEUNG-SSANGKIYEOKcSSANGYESIEUNGcYESIEUNG-KHIEUKH
  +180BaFVS1aFVS2aFVS3aMVSaFVS4+200BaZWSPaZWNJaZWJaLRMaRLM+202AaLREaRLEaPDFaLROaRLOaNNBSP+205FaMMSP
  aWJ+2066aLRIaRLIaFSIaPDI+2118aWEIERSTRASS ELLIPTIC FUNCTION+2448aMICR ON US SYMBOLbbDASH
  +2B7AaLEFTWARDS TRIANGLE-HEADED ARROW WITH DOUBLE VERTICAL STROKE+2B7CagRIGHTWARDS
  +A015aYI SYLLABLE ITERATION MARK+AA6EaMYANMAR LETTER KHAMTI LLA
  +FE18aPRESENTATION FORM FOR VERTICAL RIGHT WHITE LENTICULAR BRACKET+FEFFaBOM+FEFFaBYTE ORDER MARK
  +FEFFaZWNBSP+122D4aCUNEIFORM SIGN NU11 TENUdOVER NU11 BUR OVER BUR
  +16E56aMEDEFAIDRIN CAPITAL LETTER HdNG+16E76bSMALL LETTER HdNG+1B001aHENTAIGANA LETTER E-1
  +1D0C5aBYZANTINE MUSICAL SYMBOL FTHORA SKLIRON CHROMA VASIS"

end RecordPattern.Text.CharName
