namespace RecordPattern.Text.CharName

-- Names of punctuation, symbols and further scripts.
def symbols : String :=
  "+2000aEN QUADabEMaEN SPACEabEMabTHREE-PER-EMabFOUR-PER-EMabSIX-PER-EMabFIGUREabPUNCTUATIONabTHIN
  abHAIRabZERO WIDTHcNON-JOINERcJOINERaLEFT-TO-RIGHT MARKabRIGHT-TO-LEFTaHYPHENabNON-BREAKING
  aFIGURE DASHabENabEMaHORIZONTAL BARaDOUBLE VERTICAL LINEbbLOWaLEFT SINGLE QUOTATION MARKadRIGHT
  acSINGLE LOW-9bcHIGH-REVERSED-9acLEFT DOUBLEadRIGHTacDOUBLE LOW-9bcHIGH-REVERSED-9aDAGGERabDOUBLE
  aBULLETabTRIANGULARaONE DOT LEADERacTWOaHORIZONTAL ELLIPSISaHYPHENATION POINTaLINE SEPARATOR
  abPARAGRAPHaLEFT-TO-RIGHT EMBEDDINGabRIGHT-TO-LEFTaPOP DIRECTIONAL FORMATTING
  aLEFT-TO-RIGHT OVERRIDEabRIGHT-TO-LEFTaNARROW NO-BREAK SPACEaPER MILLE SIGNbbTEN THOUSANDaPRIME
  abDOUBLEabTRIPLEabREVERSEDbbDOUBLEbbTRIPLEaCARETaSINGLE LEFT-POINTING ANGLE QUOTATION MARK
  bdRIGHT-POINTINGabREFERENCEabDOUBLE EXCLAMATIONaINTERROBANGaOVERLINEaUNDERTIEaCHARACTER TIE
  aCARET INSERTION POINTaASTERISMaHYPHEN BULLETaFRACTION SLASHaLEFT SQUARE BRACKET WITH QUILLaeRIGHT
  aDOUBLE QUESTION MARKabQUESTION EXCLAMATIONabEXCLAMATION QUESTIONaTIRONIAN SIGN ET
  aREVERSED PILCROW SIGNaBLACK LEFTWARDS BULLETbbRIGHTWARDSaLOW ASTERISKaREVERSED SEMICOLONaCLOSE UP
  aTWO ASTERISKS ALIGNED VERTICALLYaCOMMERCIAL MINUS SIGNaSWUNG DASHaINVERTED UNDERTIE
  aFLOWER PUNCTUATION MARKaTHREE DOT PUNCTUATIONaQUADRUPLE PRIMEaFOUR DOT PUNCTUATIONacFIVEacTWO
  aFOUR DOT MARKaDOTTED CROSSaTRICOLONaVERTICAL FOUR DOTSaMEDIUM MATHEMATICAL SPACEaWORD JOINER
  aFUNCTION APPLICATIONaINVISIBLE TIMESbSEPARATORbPLUS+2066aLEFT-TO-RIGHT ISOLATEabRIGHT-TO-LEFT
  abFIRST STRONGabPOP DIRECTIONALaINHIBIT SYMMETRIC SWAPPINGacACTIVATEaINHIBIT ARABIC FORM SHAPING
  adACTIVATEaNATIONAL DIGIT SHAPESacNOMINALaSUPERSCRIPT ZERObLATIN SMALL LETTER I+2074bFOURbFIVEbSIX
  bSEVENbEIGHTbNINEbPLUS SIGNbMINUSbEQUALS SIGNbLEFT PARENTHESISbbRIGHTbLATIN SMALL LETTER N
  aSUBSCRIPT ZERObONEbTWObTHREEbFOURbFIVEbSIXbSEVENbEIGHTbNINEbPLUS SIGNbMINUSbEQUALS SIGN
  bLEFT PARENTHESISbbRIGHT+2090aLATIN SUBSCRIPT SMALL LETTER AeEeOeXeSCHWAeHeKeLeMeNePeSeT
  +20A0aEURO-CURRENCY SIGNabCOLONabCRUZEIROabFRENCH FRANCabLIRAabMILLabNAIRAabPESETAabRUPEEabWON
  abNEW SHEQELabDONGabEUROabKIPabTUGRIKabDRACHMAabGERMAN PENNYabPESOabGUARANIabAUSTRALabHRYVNIA
  abCEDIabLIVRE TOURNOISabSPESMILOabTENGEabINDIAN RUPEEabTURKISH LIRAabNORDIC MARKabMANATabRUBLE
  abLARIabBITCOINabSOM+20D0aCOMBINING LEFT HARPOON ABOVEbcRIGHTbLONG VERTICAL LINE OVERLAYbdSHORT
  bANTICLOCKWISE ARROW ABOVEbcCLOCKWISEbcLEFTbcRIGHTbRING OVERLAYbcCLOCKWISEbcANTICLOCKWISE
  bTHREE DOTS ABOVEbcFOURbENCLOSING CIRCLEcSQUAREcDIAMONDcCIRCLE BACKSLASHbLEFT RIGHT ARROW ABOVE
  bENCLOSING SCREENcKEYCAPcUPWARD POINTING TRIANGLEbREVERSE SOLIDUS OVERLAYbbDOUBLE VERTICAL STROKE
  bANNUITY SYMBOLbTRIPLE UNDERDOTbWIDE BRIDGE ABOVEbLEFTWARDS ARROW OVERLAYbbLONG DOUBLE SOLIDUS
  bRIGHTWARDS HARPOON WITH BARB DOWNWARDSbeLEFTWARDSbLEFT ARROW BELOWbcRIGHTbASTERISK ABOVE
  +2100aACCOUNT OFaADDRESSED TO THE SUBJECTaDOUBLE-STRUCK CAPITAL CaDEGREE CELSIUS
  aCENTRE LINE SYMBOLaCARE OFaCADA UNAaEULER CONSTANTaSCRUPLEaDEGREE FAHRENHEITaSCRIPT SMALL G
  bCAPITAL HacBLACK-LETTERacDOUBLE-STRUCKaPLANCK CONSTANTcOVER TWO PIaSCRIPT CAPITAL IacBLACK-LETTER
  aSCRIPT CAPITAL LbbSMALLaL B BAR SYMBOLaDOUBLE-STRUCK CAPITAL NaNUMERO SIGN
  aSOUND RECORDING COPYRIGHTaSCRIPT CAPITAL PacDOUBLE-STRUCKcQaSCRIPT CAPITAL RacBLACK-LETTER
  acDOUBLE-STRUCKaPRESCRIPTION TAKEaRESPONSEaSERVICE MARKaTELEPHONE SIGNabTRADE MARKaVERSICLE
  aDOUBLE-STRUCK CAPITAL ZaOUNCE SIGNabOHMacINVERTEDaBLACK-LETTER CAPITAL Z
  aTURNED GREEK SMALL LETTER IOTAaKELVIN SIGNabANGSTROMaSCRIPT CAPITAL BaBLACK-LETTER CAPITAL C
  aESTIMATED SYMBOLaSCRIPT SMALL EbbCAPITALcFacTURNEDaSCRIPT CAPITAL MbSMALL OaALEF SYMBOLabBET
  abGIMELabDALETaINFORMATION SOURCEaROTATED CAPITAL QaFACSIMILE SIGNaDOUBLE-STRUCK SMALL PIcGAMMA
  bbCAPITALcPIbN-ARY SUMMATIONaTURNED SANS-SERIF CAPITAL GdLadREVERSEDaTURNED SANS-SERIF CAPITAL Y
  aDOUBLE-STRUCK ITALIC CAPITAL DcbSMALLdEdIdJaPROPERTY LINEaTURNED AMPERSANDaPER SIGNaAKTIESELSKAB
  aTURNED SMALL FaSYMBOL FOR SAMARITAN SOURCEaVULGAR FRACTION ONE SEVENTHdNINTHdTENTHdTHIRD
  cTWO THIRDScONE FIFTHcTWO FIFTHScbTHREEcbFOURcONE SIXTHcFIVE SIXTHScONE EIGHTHcTHREE EIGHTHScbFIVE
  cbSEVENaFRACTION NUMERATOR ONEabROMAN NUMERALcTWOcTHREEcFOURcFIVEcSIXcSEVENcEIGHTcNINEcTENcELEVEN
  cTWELVEcFIFTYcONE HUNDREDcbFIVEcONE THOUSANDaSMALL ROMAN NUMERAL ONEdTWOdTHREEdFOURdFIVEdSIXdSEVEN
  dEIGHTdNINEdTENdELEVENdTWELVEdFIFTYdONE HUNDREDdbFIVEdONE THOUSANDaROMAN NUMERAL ONE THOUSAND C D
  cFIVE THOUSANDcbTENcREVERSED ONE HUNDREDaLATIN SMALL LETTER REVERSED CaROMAN NUMERAL SIX LATE FORM
  cbFIFTY EARLYdTHOUSANDcbONE HUNDREDaVULGAR FRACTION ZERO THIRDSaTURNED DIGIT TWOcTHREE
  +2190aLEFTWARDS ARROWabUPWARDSabRIGHTWARDSabDOWNWARDSabLEFT RIGHTabUP DOWNabNORTH WESTbbEAST
  acSOUTHbbWESTaLEFTWARDS ARROW WITH STROKEadRIGHTWARDSaLEFTWARDS WAVE ARROWacRIGHTWARDS
  abLEFTWARDS TWO HEADEDadUPWARDSadRIGHTWARDSadDOWNWARDSaLEFTWARDS ARROW WITH TAILadRIGHTWARDS
  aLEFTWARDS ARROW FROM BARadUPWARDSadRIGHTWARDSadDOWNWARDSaUP DOWN ARROW WITH BASE
  aLEFTWARDS ARROW WITH HOOKadRIGHTWARDSaLEFTWARDS ARROW WITH LOOPadRIGHTWARDSaLEFT RIGHT WAVE ARROW
  cARROW WITH STROKEaDOWNWARDS ZIGZAG ARROWaUPWARDS ARROW WITH TIP LEFTWARDSeRIGHTWARDS
  aDOWNWARDS ARROW WITH TIP LEFTWARDSeRIGHTWARDSaRIGHTWARDS ARROW WITH CORNER DOWNWARDS
  aDOWNWARDS ARROW WITH CORNER LEFTWARDSaANTICLOCKWISE TOP SEMICIRCLE ARROWadCLOCKWISE
  aNORTH WEST ARROW TO LONG BARabLEFTWARDS ARROW TO BAR OVER RIGHTWARDS ARROW TO
  aANTICLOCKWISE OPEN CIRCLE ARROWadCLOCKWISEaLEFTWARDS HARPOON WITH BARB UPWARDSeDOWNWARDS
  aUPWARDS HARPOON WITH BARB RIGHTWARDSeLEFTWARDSaRIGHTWARDS HARPOON WITH BARB UPWARDSeDOWNWARDS
  aDOWNWARDS HARPOON WITH BARB RIGHTWARDSeLEFTWARDSaRIGHTWARDS ARROW OVER LEFTWARDS ARROW
  abUPWARDS ARROW LEFTWARDS OF DOWNWARDSabLEFTWARDS ARROW OVER RIGHTWARDSbPAIRED ARROWSacUPWARDS
  acRIGHTWARDSacDOWNWARDSaLEFTWARDS HARPOON OVER RIGHTWARDS HARPOON
  abRIGHTWARDS HARPOON OVER LEFTWARDSaLEFTWARDS DOUBLE ARROW WITH STROKEaeLEFT RIGHTaeRIGHTWARDS
  aLEFTWARDS DOUBLE ARROWacUPWARDSacRIGHTWARDSacDOWNWARDSacLEFT RIGHTacUP DOWNacNORTH WESTbcEAST
  adSOUTHbcWESTabLEFTWARDS TRIPLEacRIGHTWARDSabLEFTWARDS SQUIGGLEacRIGHTWARDS
  aUPWARDS ARROW WITH DOUBLE STROKEaeDOWNWARDSaLEFTWARDS DASHED ARROWacUPWARDSacRIGHTWARDS
  acDOWNWARDSaLEFTWARDS ARROW TO BARadRIGHTWARDSaLEFTWARDS WHITE ARROWacUPWARDSacRIGHTWARDS
  acDOWNWARDSaUPWARDS WHITE ARROW FROM BARdON PEDESTALfWITH HORIZONTAL BARgbVERTICALcDOUBLE ARROW
  eON PEDESTALaRIGHTWARDS WHITE ARROW FROM WALLaNORTH WEST ARROW TO CORNERadSOUTH EAST
  aUP DOWN WHITE ARROWaRIGHT ARROW WITH SMALL CIRCLEaDOWNWARDS ARROW LEFTWARDS OF UPWARDS ARROW
  aTHREE RIGHTWARDS ARROWSaLEFTWARDS ARROW WITH VERTICAL STROKEaeRIGHTWARDSaeLEFT RIGHT
  acLEFTWARDS ARROW WITH DOUBLEafRIGHTWARDSafLEFT RIGHTaLEFTWARDS OPEN-HEADED ARROWacRIGHTWARDS
  acLEFT RIGHTaFOR ALLaCOMPLEMENTaPARTIAL DIFFERENTIALaTHERE EXISTSbDOES NOT EXISTaEMPTY SET
  aINCREMENTaNABLAaELEMENT OFacNOT ANacSMALLaCONTAINS AS MEMBERacDOES NOT CONTAINacSMALL CONTAINS
  aEND OF PROOFaN-ARY PRODUCTbCOPRODUCTbSUMMATIONaMINUS SIGNabMINUS-OR-PLUSaDOT PLUSaDIVISION SLASH
  aSET MINUSaASTERISK OPERATORabRINGabBULLETaSQUARE ROOTabCUBEabFOURTHaPROPORTIONAL TOaINFINITY
  aRIGHT ANGLEab+2221abMEASUREDabSPHERICALaDIVIDESaDOES NOT DIVIDEaPARALLEL TOacNOTaLOGICAL ANDbOR
  aINTERSECTIONaUNIONaINTEGRALabDOUBLEabTRIPLEabCONTOURabSURFACEabVOLUMEabCLOCKWISEbbCONTOUR
  acANTICLOCKWISEaTHEREFOREaBECAUSEaRATIOaPROPORTIONaDOT MINUSaEXCESSaGEOMETRIC PROPORTION
  aHOMOTHETICaTILDE OPERATORaREVERSED TILDEaINVERTED LAZY SaSINE WAVEaWREATH PRODUCTaNOT TILDE
  abMINUSaASYMPTOTICALLY EQUAL TOadNOTacAPPROXIMATELYbcBUT NOT ACTUALLYadNEITHER APPROXIMATELY NOR
  acALMOSTadNOTacALMOST EQUAL ORaTRIPLE TILDEaALL EQUAL TOabEQUIVALENTacGEOMETRICALLY
  aDIFFERENCE BETWEENaAPPROACHES THE LIMITaGEOMETRICALLY EQUAL TO
  aAPPROXIMATELY EQUAL TO OR THE IMAGE OFaIMAGE OF OR APPROXIMATELY EQUAL TOaCOLON EQUALS
  aEQUALS COLONaRING IN EQUAL TObc+2258abCORRESPONDSaESTIMATESaEQUIANGULAR TOaSTAR EQUALS
  aDELTA EQUAL TOaEQUAL TO BY DEFINITIONaMEASURED BYaQUESTIONED EQUAL TOacNOTabIDENTICALacNOT
  abSTRICTLY EQUIVALENTabLESS-THAN OR EQUALadGREATER-THANacLESS-THAN OVERadGREATER-THAN
  acLESS-THAN BUT NOTaeGREATER-THANaMUCH LESS-THANbGREATER-THANaBETWEENaNOT EQUIVALENT TObLESS-THAN
  bGREATER-THANaNEITHER LESS-THAN NOR EQUAL TObdGREATER-THANabLESS-THAN OR EQUIVALENTadGREATER-THAN
  acNEITHER LESS-THAN NORbdGREATER-THANaLESS-THAN OR GREATER-THANaGREATER-THAN OR LESS-THAN
  aNEITHER LESS-THAN NOR GREATER-THANbGREATER-THAN NOR LESS-THANaPRECEDESaSUCCEEDS
  aPRECEDES OR EQUAL TOadSUCCEEDSabPRECEDES OR EQUIVALENTadSUCCEEDSaDOES NOT PRECEDEcSUCCEED
  aSUBSET OFabSUPERSETabNOT A SUBSETcbSUPERSETaSUBSET OF OR EQUAL TOaeSUPERSET
  acNEITHER A SUBSET OF NORceSUPERSETacSUBSET OF WITH NOTafSUPERSETaMULTISETbMULTIPLICATIONbUNION
  aSQUARE IMAGE OFbbORIGINALbIMAGE OF OR EQUAL TObeORIGINALbCAPbCUPaCIRCLED PLUSbMINUSbTIMES
  bDIVISION SLASHbDOT OPERATORbbRINGbbASTERISKbEQUALSbDASHaSQUARED PLUSbMINUSbTIMESbDOT OPERATOR
  aRIGHT TACKabLEFTabDOWNabUPaASSERTIONaMODELSaTRUEaFORCESaTRIPLE VERTICAL BAR RIGHT TURNSTILE
  acDOUBLE VERTICAL BAR DOUBLEaDOES NOT PROVEaNOT TRUEaDOES NOT FORCE
  aNEGATED DOUBLE VERTICAL BAR DOUBLE RIGHT TURNSTILEaPRECEDES UNDER RELATIONacSUCCEEDS
  aNORMAL SUBGROUP OFaCONTAINS AS NORMAL SUBGROUPaNORMAL SUBGROUP OF OR EQUAL TO
  adCONTAINS AS NORMAL SUBGROUPaORIGINAL OFabIMAGEaMULTIMAPaHERMITIAN CONJUGATE MATRIXaINTERCALATE
  aXORaNANDaNORaRIGHT ANGLE WITH ARCbTRIANGLEaN-ARY LOGICAL ANDcORbINTERSECTIONbUNION
  aDIAMOND OPERATORabDOTabSTARaDIVISION TIMESaBOWTIEaLEFT NORMAL FACTOR SEMIDIRECT PRODUCTaeRIGHT
  acLEFTacRIGHTaREVERSED TILDE EQUALSaCURLY LOGICAL ORcANDaDOUBLE SUBSETbSUPERSETbINTERSECTIONbUNION
  aPITCHFORKaEQUAL AND PARALLEL TOaLESS-THAN WITH DOTacGREATER-THANaVERY MUCH LESS-THANcGREATER-THAN
  abLESS-THAN EQUAL TO ORaGREATER-THAN EQUAL TO OR LESS-THANae+22DDdGREATER-THANdPRECEDESdSUCCEEDS
  aDOES NOT PRECEDE OR EQUALccSUCCEEDaNOT SQUARE IMAGE OF OR EQUAL TOceORIGINAL
  acSQUARE IMAGE OF OR NOTbfORIGINALabLESS-THAN BUT NOT EQUIVALENTaeGREATER-THANaePRECEDESaeSUCCEEDS
  aNOT NORMAL SUBGROUP OFaDOES NOT CONTAIN AS NORMAL SUBGROUPaNOT NORMAL SUBGROUP OF OR EQUAL TO
  aDOES NOT CONTAIN AS NORMAL SUBGROUP OR EQUALaVERTICAL ELLIPSISabMIDLINE HORIZONTAL
  abUP RIGHT DIAGONALadDOWNaELEMENT OF WITH LONG HORIZONTAL STROKEdcVERTICAL BAR AT END OFakSMALL
  aELEMENT OF WITH DOT ABOVEdOVERBARaeSMALLaELEMENT OF WITH UNDERBARdTWO HORIZONTAL STROKES
  aCONTAINS WITH LONG HORIZONTAL STROKEccVERTICAL BAR AT END OFajSMALLaCONTAINS WITH OVERBARadSMALL
  aZ NOTATION BAG MEMBERSHIPaDIAMETER SIGNaELECTRIC ARROWaHOUSEaUP ARROWHEADabDOWNaPROJECTIVE
  aPERSPECTIVEaWAVY LINEaLEFT CEILINGabRIGHTaLEFT FLOORabRIGHTaBOTTOM RIGHT CROPbbLEFTabTOP RIGHT
  bbLEFTaREVERSED NOT SIGNaSQUARE LOZENGEaARCaSEGMENTaSECTORaTELEPHONE RECORDERaPOSITION INDICATOR
  aVIEWDATA SQUAREaPLACE OF INTEREST SIGNabTURNED NOTaWATCHaHOURGLASSaTOP LEFT CORNERbbRIGHT
  abBOTTOM LEFTbbRIGHTaTOP HALF INTEGRALacBOTTOMaFROWNaSMILE
  aUP ARROWHEAD BETWEEN TWO HORIZONTAL BARSaOPTION KEYaERASE TO THE RIGHTaX IN A RECTANGLE BOX
  aKEYBOARDaLEFT-POINTING ANGLE BRACKETacRIGHT-POINTINGaERASE TO THE LEFTaBENZENE RINGaCYLINDRICITY
  aALL AROUND-PROFILEaSYMMETRYaTOTAL RUNOUTaDIMENSION ORIGINaCONICAL TAPERaSLOPEaCOUNTERBORE
  aCOUNTERSINKaAPL FUNCTIONAL SYMBOL I-BEAMdSQUISH QUADdQUAD EQUALeDIVIDEeDIAMONDeJOTeCIRCLE
  dCIRCLE STILEeJOTdSLASH BARdbBACKSLASHdQUAD SLASHeBACKSLASHeLESS-THANeGREATER-THANdLEFTWARDS VANE
  dbRIGHTWARDSdQUAD LEFTWARDS ARROWebRIGHTWARDSdCIRCLE BACKSLASHdDOWN TACK UNDERBARdDELTA STILE
  dQUAD DOWN CARETeDELTAdDOWN TACK JOTdUPWARDS VANEdQUAD UPWARDS ARROWdUP TACK OVERBARdDEL STILE
  dQUAD UP CARETeDELdUP TACK JOTdDOWNWARDS VANEdQUAD DOWNWARDS ARROWdQUOTE UNDERBARdbDELTAdbDIAMOND
  dbJOTdbCIRCLEdUP SHOE JOTdQUOTE QUADdCIRCLE STARdQUAD COLONdUP TACK DIAERESISdbDELdbSTARdbJOT
  dbCIRCLEdDOWN SHOE STILEdcLEFTdTILDE DIAERESISdbGREATER-THANdCOMMA BARdDEL TILDEdZILDEdSTILE TILDE
  dSEMICOLON UNDERBARdQUAD NOT EQUALeQUESTIONdDOWN CARET TILDEdcUPdIOTAdRHOdOMEGAdALPHA UNDERBAR
  dbEPSILONdbIOTAdbOMEGAdALPHAaNOT CHECK MARKaRIGHT ANGLE WITH DOWNWARDS ZIGZAG ARROW
  aSHOULDERED OPEN BOXaBELL SYMBOLaVERTICAL LINE WITH MIDDLE DOTaINSERTION SYMBOL
  abCONTINUOUS UNDERLINEacDISCONTINUOUSabEMPHASISabCOMPOSITION
  aWHITE SQUARE WITH CENTRE VERTICAL LINEaENTER SYMBOLabALTERNATIVE KEYabHELM
  aCIRCLED HORIZONTAL BAR WITH NOTCHbTRIANGLE DOWNaBROKEN CIRCLE WITH NORTHWEST ARROWaUNDO SYMBOL
  abMONOSTABLEabHYSTERESISabOPEN-CIRCUIT-OUTPUT H-TYPEbbL-TYPEabPASSIVE-PULL-DOWN-OUTPUT
  abPASSIVE-PULL-UP-OUTPUTaDIRECT CURRENT SYMBOL FORM TWOaSOFTWARE-FUNCTION SYMBOL
  aAPL FUNCTIONAL SYMBOL QUADaDECIMAL SEPARATOR KEY SYMBOLaPREVIOUS PAGEabNEXTaPRINT SCREEN SYMBOL
  acCLEARaLEFT PARENTHESIS UPPER HOOKcEXTENSIONcLOWER HOOKabRIGHT PARENTHESIS UPPERcEXTENSION
  cLOWER HOOKaLEFT SQUARE BRACKET UPPER CORNERdEXTENSIONdLOWER CORNERabRIGHT SQUARE BRACKET UPPER
  dEXTENSIONdLOWER CORNERaLEFT CURLY BRACKET UPPER HOOKdMIDDLE PIECEdLOWER HOOK
  aCURLY BRACKET EXTENSIONaRIGHT CURLY BRACKET UPPER HOOKdMIDDLE PIECEdLOWER HOOKaINTEGRAL EXTENSION
  abHORIZONTAL LINEaUPPER LEFT OR LOWER RIGHT CURLY BRACKET SECTIONbdRIGHT OR LOWER LEFT
  aSUMMATION TOPbBOTTOMaTOP SQUARE BRACKETacBOTTOMdOVER TOP SQUARE BRACKETaRADICAL SYMBOL BOTTOM
  aLEFT VERTICAL BOX LINEadRIGHTaHORIZONTAL SCAN LINE-1cLINE-3cLINE-7cLINE-9
  aDENTISTRY SYMBOL LIGHT VERTICAL AND TOP RIGHTfbBOTTOMeWITH CIRCLEdcDOWN AND HORIZONTALdeUP
  dVERTICAL WITH TRIANGLEdcDOWN AND HORIZONTALdeUPdVERTICAL AND WAVEdbDOWN AND HORIZONTAL WITHdeUP
  dDOWN AND HORIZONTALdcUPdVERTICAL AND TOP LEFTfbBOTTOMaSQUARE FOOTaRETURN SYMBOLabEJECT
  aVERTICAL LINE EXTENSIONaMETRICAL BREVEbLONG OVER SHORTbSHORT OVER LONGbLONG OVER TWO SHORTS
  bTWO SHORTS OVER LONGdJOINEDbTRISEMEbTETRASEMEbPENTASEMEaEARTH GROUNDaFUSEaTOP PARENTHESISabBOTTOM
  aTOP CURLY BRACKETacBOTTOMabTOP TORTOISE SHELLadBOTTOMaWHITE TRAPEZIUMaBENZENE RING WITH CIRCLE
  aSTRAIGHTNESSaFLATNESSaAC CURRENTaELECTRICAL INTERSECTIONaDECIMAL EXPONENT SYMBOL
  aBLACK RIGHT-POINTING DOUBLE TRIANGLEbcLEFT-POINTINGbcUP-POINTINGbcDOWN-POINTING
  bRIGHT-POINTING DOUBLE TRIANGLE WITH VERTICAL BARbfLEFT-POINTING
  bcRIGHT-POINTING TRIANGLE WITH DOUBLEaALARM CLOCKaSTOPWATCHaTIMER CLOCK
  aHOURGLASS WITH FLOWING SANDaBLACK MEDIUM LEFT-POINTING TRIANGLEcbRIGHT-POINTINGcbUP-POINTING
  cbDOWN-POINTINGaDOUBLE VERTICAL BARaBLACK SQUARE FOR STOPbCIRCLE FOR RECORDaPOWER SYMBOLbbON-OFF
  bbONbbSLEEPabOBSERVER EYEaSYMBOL FOR NULLcSTART OF HEADINGeTEXTccENDeTRANSMISSIONcENQUIRY
  cACKNOWLEDGEcBELLcBACKSPACEcHORIZONTAL TABULATIONcLINE FEEDcVERTICAL TABULATIONcFORM FEED
  cCARRIAGE RETURNcSHIFT OUTdINcDATA LINK ESCAPEcDEVICE CONTROL ONEeTWOeTHREEeFOUR
  cNEGATIVE ACKNOWLEDGEcSYNCHRONOUS IDLEcEND OF TRANSMISSION BLOCKcCANCELcEND OF MEDIUMcSUBSTITUTE
  cESCAPEcFILE SEPARATORcbGROUPcbRECORDcbUNITcSPACEcDELETEaBLANK SYMBOLaOPEN BOXaSYMBOL FOR NEWLINE
  cDELETE FORM TWOccSUBSTITUTE+2440aOCR HOOKbCHAIRbFORKbbINVERTEDbBELT BUCKLEbBOW TIE
  bBRANCH BANK IDENTIFICATIONbAMOUNT OF CHECKbDASHbCUSTOMER ACCOUNT NUMBERbDOUBLE BACKSLASH
  +2460aCIRCLED DIGIT ONEcTWOcTHREEcFOURcFIVEcSIXcSEVENcEIGHTcNINEbNUMBER TENcELEVENcTWELVEcTHIRTEEN
  cFOURTEENcFIFTEENcSIXTEENcSEVENTEENcEIGHTEENcNINETEENcTWENTYaPARENTHESIZED DIGIT ONEcTWOcTHREE
  cFOURcFIVEcSIXcSEVENcEIGHTcNINEbNUMBER TENcELEVENcTWELVEcTHIRTEENcFOURTEENcFIFTEENcSIXTEEN
  cSEVENTEENcEIGHTEENcNINETEENcTWENTYaDIGIT ONE FULL STOPbcTWObcTHREEbcFOURbcFIVEbcSIXbcSEVENbcEIGHT
  bcNINEacNUMBER TENbcELEVENbcTWELVEbcTHIRTEENbcFOURTEENbcFIFTEENbcSIXTEENbcSEVENTEENbcEIGHTEEN
  bcNINETEENbcTWENTYaPARENTHESIZED LATIN SMALL LETTER AeBeCeDeEeFeGeHeIeJeKeLeMeNeOePeQeReSeTeUeVeW
  eXeYeZaCIRCLED LATIN CAPITAL LETTER AeBeCeDeEeFeGeHeIeJeKeLeMeNeOePeQeReSeTeUeVeWeXeYeZ
  cSMALL LETTER AeBeCeDeEeFeGeHeIeJeKeLeMeNeOePeQeReSeTeUeVeWeXeYeZbDIGIT ZERO
  aNEGATIVE CIRCLED NUMBER ELEVENdTWELVEdTHIRTEENdFOURTEENdFIFTEENdSIXTEENdSEVENTEENdEIGHTEEN
  dNINETEENdTWENTYaDOUBLE CIRCLED DIGIT ONEdTWOdTHREEdFOURdFIVEdSIXdSEVENdEIGHTdNINEcNUMBER TEN
  aNEGATIVE CIRCLED DIGIT ZEROaBOX DRAWINGS LIGHT HORIZONTALcbHEAVYcLIGHT VERTICALcbHEAVY
  cLIGHT TRIPLE DASH HORIZONTALcdHEAVYcLIGHT TRIPLE DASH VERTICALcdHEAVY
  cLIGHT QUADRUPLE DASH HORIZONTALcdHEAVYcLIGHT QUADRUPLE DASH VERTICALcdHEAVYcLIGHT DOWN AND RIGHT
  cDOWN LIGHT AND RIGHT HEAVYdHEAVY AND RIGHT LIGHTcHEAVY DOWN AND RIGHTcLIGHT DOWN AND LEFT
  cDOWN LIGHT AND LEFT HEAVYdHEAVY AND LEFT LIGHTcHEAVY DOWN AND LEFTcLIGHT UP AND RIGHT
  cUP LIGHT AND RIGHT HEAVYdHEAVY AND RIGHT LIGHTcHEAVY UP AND RIGHTcLIGHT UP AND LEFT
  cUP LIGHT AND LEFT HEAVYdHEAVY AND LEFT LIGHTcHEAVY UP AND LEFTcLIGHT VERTICAL AND RIGHT
  cVERTICAL LIGHT AND RIGHT HEAVYcUP HEAVY AND RIGHT DOWN LIGHTcbDOWN HEAVY AND RIGHT UP
  cbVERTICAL HEAVY AND RIGHTcDOWN LIGHT AND RIGHT UP HEAVYcbUP LIGHT AND RIGHT DOWN
  cHEAVY VERTICAL AND RIGHTcLIGHT VERTICAL AND LEFTcVERTICAL LIGHT AND LEFT HEAVY
  cUP HEAVY AND LEFT DOWN LIGHTcbDOWN HEAVY AND LEFT UPcbVERTICAL HEAVY AND LEFT
  cDOWN LIGHT AND LEFT UP HEAVYcbUP LIGHT AND LEFT DOWNcHEAVY VERTICAL AND LEFT
  cLIGHT DOWN AND HORIZONTALcLEFT HEAVY AND RIGHT DOWN LIGHTccRIGHT HEAVY AND LEFT
  cDOWN LIGHT AND HORIZONTAL HEAVYdHEAVY AND HORIZONTAL LIGHTcRIGHT LIGHT AND LEFT DOWN HEAVY
  ccLEFT LIGHT AND RIGHTcHEAVY DOWN AND HORIZONTALccLIGHT UPcLEFT HEAVY AND RIGHT UP LIGHT
  ccRIGHT HEAVY AND LEFTcUP LIGHT AND HORIZONTAL HEAVYdHEAVY AND HORIZONTAL LIGHT
  cRIGHT LIGHT AND LEFT UP HEAVYccLEFT LIGHT AND RIGHTcHEAVY UP AND HORIZONTALccLIGHT VERTICAL
  cLEFT HEAVY AND RIGHT VERTICAL LIGHTccRIGHT HEAVY AND LEFTcVERTICAL LIGHT AND HORIZONTAL HEAVY
  cUP HEAVY AND DOWN HORIZONTAL LIGHTccDOWN HEAVY AND UPccVERTICAL HEAVY AND
  cbLEFT UP HEAVY AND RIGHT DOWNccRIGHT UP HEAVY AND LEFTcbLEFT DOWN HEAVY AND RIGHT UP
  ccRIGHT DOWN HEAVY AND LEFTcDOWN LIGHT AND UP HORIZONTAL HEAVYccUP LIGHT AND DOWN
  cbRIGHT LIGHT AND LEFT VERTICALccLEFT LIGHT AND RIGHTcHEAVY VERTICAL AND HORIZONTAL
  cbLIGHT DOUBLE DASHcdHEAVYcLIGHT DOUBLE DASH VERTICALcdHEAVYcDOUBLE HORIZONTALdVERTICAL
  cDOWN SINGLE AND RIGHT DOUBLEdDOUBLE AND RIGHT SINGLEcDOUBLE DOWN AND RIGHT
  cDOWN SINGLE AND LEFT DOUBLEdDOUBLE AND LEFT SINGLEcDOUBLE DOWN AND LEFT
  cUP SINGLE AND RIGHT DOUBLEdDOUBLE AND RIGHT SINGLEcDOUBLE UP AND RIGHTcUP SINGLE AND LEFT DOUBLE
  dDOUBLE AND LEFT SINGLEcDOUBLE UP AND LEFTcVERTICAL SINGLE AND RIGHT DOUBLE
  dDOUBLE AND RIGHT SINGLEcDOUBLE VERTICAL AND RIGHTcVERTICAL SINGLE AND LEFT DOUBLE
  dDOUBLE AND LEFT SINGLEcDOUBLE VERTICAL AND LEFTcDOWN SINGLE AND HORIZONTAL DOUBLE
  dDOUBLE AND HORIZONTAL SINGLEcDOUBLE DOWN AND HORIZONTALcUP SINGLE AND HORIZONTAL DOUBLE
  dDOUBLE AND HORIZONTAL SINGLEcDOUBLE UP AND HORIZONTALcVERTICAL SINGLE AND HORIZONTAL DOUBLE
  dDOUBLE AND HORIZONTAL SINGLEcDOUBLE VERTICAL AND HORIZONTALcLIGHT ARC DOWN AND RIGHTgLEFTecUP
  gRIGHTdDIAGONAL UPPER RIGHT TO LOWER LEFTfLEFT TO LOWER RIGHTeCROSSdLEFTdUPdRIGHTdDOWNcHEAVY LEFT
  dUPdRIGHTdDOWNcLIGHT LEFT AND HEAVY RIGHTdUP AND HEAVY DOWNcHEAVY LEFT AND LIGHT RIGHT
  dUP AND LIGHT DOWNaUPPER HALF BLOCKabLOWER ONE EIGHTHcbQUARTERbbTHREE EIGHTHSbbHALFbbFIVE EIGHTHS
  bbTHREE QUARTERSbbSEVEN EIGHTHSabFULLabLEFT SEVEN EIGHTHSbbTHREE QUARTERSbbFIVE EIGHTHSbbHALF
  bbTHREE EIGHTHSbbONE QUARTERcbEIGHTHabRIGHT HALFaLIGHT SHADEabMEDIUMabDARKaUPPER ONE EIGHTH BLOCK
  adRIGHTaQUADRANT LOWER LEFTcRIGHTbUPPER LEFTdAND LOWER LEFT AND LOWER RIGHTfb
  +259BeUPPER RIGHT AND LOWER LEFTiRIGHTcb+259EdAND LOWER LEFTgAND LOWER RIGHTaBLACK SQUAREabWHITE
  cWITH ROUNDED CORNERScCONTAINING BLACK SMALL SQUAREaSQUARE WITH HORIZONTAL FILLcbVERTICAL
  cbORTHOGONAL CROSSHATCHcbUPPER LEFT TO LOWER RIGHTdbRIGHT TO LOWER LEFTcbDIAGONAL CROSSHATCH
  aBLACK SMALL SQUAREacWHITEaBLACK RECTANGLEabWHITEabBLACK VERTICALacWHITEaBLACK PARALLELOGRAM
  abWHITEaBLACK UP-POINTING TRIANGLEacWHITEabBLACK UP-POINTING SMALLadWHITEabBLACK RIGHT-POINTING
  acWHITEabBLACK RIGHT-POINTING SMALLadWHITEaBLACK RIGHT-POINTING POINTERacWHITE
  aBLACK DOWN-POINTING TRIANGLEacWHITEabBLACK DOWN-POINTING SMALLadWHITEabBLACK LEFT-POINTINGacWHITE
  abBLACK LEFT-POINTING SMALLadWHITEaBLACK LEFT-POINTING POINTERacWHITEaBLACK DIAMONDabWHITE
  cCONTAINING BLACK SMALL DIAMONDaFISHEYEaLOZENGEaWHITE CIRCLEabDOTTEDaCIRCLE WITH VERTICAL FILL
  aBULLSEYEaBLACK CIRCLEaCIRCLE WITH LEFT HALF BLACKccRIGHTccLOWERccUPPERdbRIGHT QUADRANT
  ccALL BUT UPPER LEFTaLEFT HALF BLACK CIRCLEadRIGHTaINVERSE BULLETbWHITE CIRCLEadUPPER HALFaeLOWER
  aUPPER LEFT QUADRANT CIRCULAR ARCbdRIGHTaeLOWERbdLEFTaUPPER HALF CIRCLEacLOWER
  aBLACK LOWER RIGHT TRIANGLEcbLEFTbcUPPERcbRIGHTaWHITE BULLETaSQUARE WITH LEFT HALF BLACKccRIGHT
  ccUPPER LEFT DIAGONALcdLOWER RIGHTaWHITE SQUARE WITH VERTICAL BISECTING LINE
  bUP-POINTING TRIANGLE WITH DOTaUP-POINTING TRIANGLE WITH LEFT HALF BLACKdcRIGHTaLARGE CIRCLE
  aWHITE SQUARE WITH UPPER LEFT QUADRANTdcLOWERebRIGHTdcUPPERbbCIRCLE WITH UPPER LEFTdcLOWERebRIGHT
  dcUPPERaUPPER LEFT TRIANGLEbbRIGHTabLOWER LEFTaWHITE MEDIUM SQUAREacBLACKabWHITE MEDIUM SMALL
  adBLACKaLOWER RIGHT TRIANGLEaBLACK SUN WITH RAYSaCLOUDaUMBRELLAaSNOWMANaCOMETaBLACK STARabWHITE
  aLIGHTNINGaTHUNDERSTORMaSUNaASCENDING NODEabDESCENDINGaCONJUNCTIONaOPPOSITIONaBLACK TELEPHONE
  abWHITEaBALLOT BOXcWITH CHECKdXaSALTIREaUMBRELLA WITH RAIN DROPSaHOT BEVERAGEaWHITE SHOGI PIECE
  acBLACKaSHAMROCKaREVERSED ROTATED FLORAL HEART BULLETaBLACK LEFT POINTING INDEXbcRIGHTacWHITE LEFT
  bcUPbcRIGHTbcDOWNaSKULL AND CROSSBONESaCAUTION SIGNabRADIOACTIVEabBIOHAZARDaCADUCEUSaANKH
  aORTHODOX CROSSaCHI RHOaCROSS OF LORRAINEcJERUSALEMaSTAR AND CRESCENTaFARSI SYMBOLaADI SHAKTI
  aHAMMER AND SICKLEaPEACE SYMBOLaYIN YANGaTRIGRAM FOR HEAVENcLAKEcFIREcTHUNDERcWINDcWATERcMOUNTAIN
  cEARTHaWHEEL OF DHARMAaWHITE FROWNING FACEbbSMILINGacBLACKaWHITE SUN WITH RAYSaFIRST QUARTER MOON
  acLASTaMERCURYaFEMALE SIGNaEARTHaMALE SIGNaJUPITERaSATURNaURANUSaNEPTUNEaPLUTOaARIESaTAURUSaGEMINI
  aCANCERaLEOaVIRGOaLIBRAaSCORPIUSaSAGITTARIUSaCAPRICORNaAQUARIUSaPISCESaWHITE CHESS KINGcQUEENcROOK
  cBISHOPcKNIGHTcPAWNaBLACK CHESS KINGcQUEENcROOKcBISHOPcKNIGHTcPAWNbSPADE SUITabWHITE HEART
  bbDIAMONDabBLACK CLUBabWHITE SPADEabBLACK HEARTbbDIAMONDabWHITE CLUBaHOT SPRINGSaQUARTER NOTE
  abEIGHTHaBEAMED EIGHTH NOTESbbSIXTEENTHaMUSIC FLAT SIGNbbNATURALbbSHARPaWEST SYRIAC CROSSacEAST
  aUNIVERSAL RECYCLING SYMBOLaRECYCLING SYMBOL FOR TYPE-1 PLASTICSdbTYPE-2dbTYPE-3dbTYPE-4dbTYPE-5
  dbTYPE-6dbTYPE-7dGENERIC MATERIALSaBLACK UNIVERSAL RECYCLING SYMBOLabRECYCLED PAPER
  acPARTIALLY-RECYCLEDaPERMANENT PAPER SIGNaWHEELCHAIR SYMBOLaDIE FACE-1bFACE-2bFACE-3bFACE-4bFACE-5
  bFACE-6aWHITE CIRCLE WITH DOT RIGHTdTWO DOTSaBLACK CIRCLE WITH WHITE DOT RIGHTdTWO WHITE DOTS
  aMONOGRAM FOR YANGcYINaDIGRAM FOR GREATER YANGcLESSER YINdYANGcGREATER YINaWHITE FLAGabBLACK
  aHAMMER AND PICKaANCHORaCROSSED SWORDSaSTAFF OF AESCULAPIUSaSCALESaALEMBICaFLOWERaGEAR
  aSTAFF OF HERMESaATOM SYMBOLaFLEUR-DE-LISaOUTLINED WHITE STARaTHREE LINES CONVERGING RIGHTdLEFT
  aWARNING SIGNabHIGH VOLTAGEabDOUBLED FEMALEbbMALEacINTERLOCKED FEMALE ANDabMALE AND FEMALE
  bbWITH STROKEdbAND MALE AND FEMALEabVERTICAL MALE WITH STROKEaeHORIZONTALaMEDIUM WHITE CIRCLE
  bbBLACKbbSMALL WHITEaMARRIAGE SYMBOLabDIVORCEabUNMARRIED PARTNERSHIPaCOFFINaFUNERAL URNaNEUTER
  aCERESaPALLASaJUNOaVESTAaCHIRONaBLACK MOON LILITHaSEXTILEaSEMISEXTILEaQUINCUNXaSESQUIQUADRATE
  aSOCCER BALLaBASEBALLaSQUARED KEYaWHITE DRAUGHTS MANcKINGaBLACK DRAUGHTS MANcKING
  aSNOWMAN WITHOUT SNOWaSUN BEHIND CLOUDaRAINaBLACK SNOWMANaTHUNDER CLOUD AND RAIN
  aTURNED WHITE SHOGI PIECEbcBLACKaWHITE DIAMOND IN SQUAREaCROSSING LANESaDISABLED CARaOPHIUCHUS
  aPICKaCAR SLIDINGaHELMET WITH WHITE CROSSaCIRCLED CROSSING LANESaCHAINSaNO ENTRY
  aALTERNATE ONE-WAY LEFT WAY TRAFFICadBLACK TWO-WAYaeWHITEaBLACK LEFT LANE MERGEadWHITE
  aDRIVE SLOW SIGNaHEAVY WHITE DOWN-POINTING TRIANGLEaLEFT CLOSED ENTRYaSQUARED SALTIRE
  aFALLING DIAGONAL IN WHITE CIRCLE IN BLACK SQUAREaBLACK TRUCKaRESTRICTED LEFT ENTRY-1cENTRY-2
  aASTRONOMICAL SYMBOL FOR URANUSaHEAVY CIRCLE WITH STROKE AND TWO DOTS ABOVEaPENTAGRAM
  abRIGHT-HANDED INTERLACEDacLEFT-HANDEDabINVERTEDaBLACK CROSS ON SHIELDaSHINTO SHRINEaCHURCHaCASTLE
  aHISTORIC SITEaGEAR WITHOUT HUBbWITH HANDLESaMAP SYMBOL FOR LIGHTHOUSEaMOUNTAINaUMBRELLA ON GROUND
  aFOUNTAINaFLAG IN HOLEaFERRYaSAILBOATaSQUARE FOUR CORNERSaSKIERaICE SKATEaPERSON WITH BALLaTENT
  aJAPANESE BANK SYMBOLabHEADSTONE GRAVEYARDaFUEL PUMPaCUP ON BLACK SQUARE
  aWHITE FLAG WITH HORIZONTAL MIDDLE BLACK STRIPEaBLACK SAFETY SCISSORSabUPPER BLADEabBLACK
  abLOWER BLADEabWHITEbHEAVY CHECK MARKaTELEPHONE LOCATION SIGNaTAPE DRIVEaAIRPLANEaENVELOPE
  aRAISED FISTbHANDabVICTORYabWRITINGaLOWER RIGHT PENCILab+2710abUPPER RIGHTaWHITE NIBabBLACK
  aCHECK MARKacHEAVYaMULTIPLICATION XacHEAVYabBALLOTacHEAVYaOUTLINED GREEK CROSSacHEAVYabOPEN CENTRE
  adHEAVYabLATINacSHADOWED WHITEacOUTLINEDabMALTESEaSTAR OF DAVIDaFOUR TEARDROP-SPOKED ASTERISK
  bbBALLOON-SPOKEDadHEAVYabFOUR CLUB-SPOKEDaBLACK FOUR POINTED STARadWHITEaSPARKLES
  aSTRESS OUTLINED WHITE STARacCIRCLEDabOPEN CENTRE BLACKabBLACK CENTRE WHITEabOUTLINED BLACKadHEAVY
  abPINWHEELabSHADOWED WHITEaHEAVY ASTERISKabOPEN CENTREabEIGHT SPOKEDbPOINTED BLACK STARcbPINWHEEL
  abSIX POINTED BLACKacEIGHT POINTED RECTILINEARafHEAVYacTWELVE POINTEDaSIXTEEN POINTED ASTERISK
  abTEARDROP-SPOKEDacOPEN CENTREacHEAVYaSIX PETALLED BLACK AND WHITE FLORETTEabBLACKabWHITE
  abEIGHT PETALLED OUTLINED BLACKaCIRCLED OPEN CENTRE EIGHT POINTED STAR
  aHEAVY TEARDROP-SPOKED PINWHEEL ASTERISKaSNOWFLAKEabTIGHT TRIFOLIATEabHEAVY CHEVRONaSPARKLEabHEAVY
  aBALLOON-SPOKED ASTERISKabEIGHT TEARDROP-SPOKED PROPELLERaeHEAVYaCROSS MARKaSHADOWED WHITE CIRCLE
  aNEGATIVE SQUARED CROSS MARKaLOWER RIGHT DROP-SHADOWED WHITE SQUAREaeUPPERacLOWER RIGHT SHADOWED
  aeUPPERaBLACK QUESTION MARK ORNAMENTadWHITEbcEXCLAMATIONaBLACK DIAMOND MINUS WHITE X
  aHEAVY EXCLAMATION MARK SYMBOLaLIGHT VERTICAL BARacMEDIUMacHEAVY
  bSINGLE TURNED COMMA QUOTATION MARK ORNAMENTce+275DbeDOUBLE TURNEDce+275FbeLOW SINGLEceDOUBLE
  abCURVED STEM PARAGRAPH SIGNabHEAVY EXCLAMATION MARKbdHEARTbBLACK HEART
  aROTATED HEAVY BLACK HEART BULLETaFLORAL HEARTaROTATED FLORAL HEART BULLET
  aMEDIUM LEFT PARENTHESIS ORNAMENTbcRIGHTbcFLATTENED LEFTccRIGHTbbLEFT-POINTING ANGLE BRACKET
  bdRIGHT-POINTINGabHEAVY LEFT-POINTING ANGLE QUOTATION MARKbeRIGHT-POINTING
  bbLEFT-POINTING ANGLE BRACKETbdRIGHT-POINTINGacLIGHT LEFT TORTOISE SHELLbeRIGHTacMEDIUM LEFT CURLY
  bdRIGHTaDINGBAT NEGATIVE CIRCLED DIGIT ONEeTWOeTHREEeFOUReFIVEeSIXeSEVENeEIGHTeNINEdNUMBER TEN
  bCIRCLED SANS-SERIF DIGIT ONEeTWOeTHREEeFOUReFIVEeSIXeSEVENeEIGHTeNINEdNUMBER TEN
  bNEGATIVE CIRCLED SANS-SERIF DIGIT ONEfTWOfTHREEfFOURfFIVEfSIXfSEVENfEIGHTfNINEeNUMBER TEN
  aHEAVY WIDE-HEADED RIGHTWARDS ARROWbPLUS SIGNbbMINUSbbDIVISIONbSOUTH EAST ARROWbbRIGHTWARDS
  bbNORTH EASTabDRAFTING POINT RIGHTWARDSacHEAVY ROUND-TIPPEDacTRIANGLE-HEADEDadHEAVYadDASHEDaeHEAVY
  acBLACKaTHREE-D TOP-LIGHTED RIGHTWARDS ARROWHEADbcBOTTOM-LIGHTEDacBLACK
  aHEAVY BLACK CURVED DOWNWARDS AND RIGHTWARDS ARROWddUPWARDSacSQUAT BLACKadHEAVY CONCAVE-POINTED
  acRIGHT-SHADED WHITEadLEFT-SHADEDadBACK-TILTED SHADOWEDaeFRONT-TILTEDadHEAVY LOWER RIGHT-SHADOWED
  beUPPERaeNOTCHED LOWERaCURLY LOOPaNOTCHED UPPER RIGHT-SHADOWED WHITE RIGHTWARDS ARROW
  adCIRCLED HEAVYacWHITE-FEATHEREDabBLACK-FEATHERED SOUTH EASTbbRIGHTWARDSbbNORTH EAST
  acHEAVY BLACK-FEATHERED SOUTHcbRIGHTWARDScbNORTH EASTabTEARDROP-BARBED RIGHTWARDS
  acHEAVY TEARDROP-SHANKEDacWEDGE-TAILEDadHEAVYacOPEN-OUTLINEDaDOUBLE CURLY LOOP
  aTHREE DIMENSIONAL ANGLEaWHITE TRIANGLE CONTAINING SMALL WHITE TRIANGLEaPERPENDICULARaOPEN SUBSET
  bSUPERSETaLEFT S-SHAPED BAG DELIMITERadRIGHTaOR WITH DOT INSIDEaREVERSE SOLIDUS PRECEDING SUBSET
  aSUPERSET PRECEDING SOLIDUSaVERTICAL BAR WITH HORIZONTAL STROKEaMATHEMATICAL RISING DIAGONAL
  aLONG DIVISIONaMATHEMATICAL FALLING DIAGONALaSQUARED LOGICAL ANDcORaWHITE DIAMOND WITH CENTRED DOT
  abAND WITHaELEMENT OF OPENING UPWARDSaLOWER RIGHT CORNER WITH DOTadUPPER LEFTaLEFT OUTER JOIN
  acRIGHTacFULLaLARGE UP TACKbbDOWNaLEFT AND RIGHT DOUBLE TURNSTILEdTACKbMULTIMAPaLONG RIGHT TACK
  bbLEFTaUP TACK WITH CIRCLE ABOVEaLOZENGE DIVIDED BY HORIZONTAL RULEaWHITE CONCAVE-SIDED DIAMOND
  dWITH LEFTWARDS TICKebRIGHTWARDSbbSQUARE WITH LEFTWARDSdbRIGHTWARDS
  aMATHEMATICAL LEFT WHITE SQUARE BRACKETbdRIGHTbbLEFT ANGLEbcRIGHTbcLEFT DOUBLEbdRIGHT
  bbLEFT WHITE TORTOISE SHELLbeRIGHTbLEFT FLATTENED PARENTHESISbcRIGHTaUPWARDS QUADRUPLE ARROW
  acDOWNWARDSabANTICLOCKWISE GAPPED CIRCLEadCLOCKWISEaRIGHT ARROW WITH CIRCLED PLUS
  aLONG LEFTWARDS ARROWbbRIGHTWARDSbbLEFT RIGHTbbLEFTWARDS DOUBLEbcRIGHTWARDSbcLEFT RIGHT
  bLEFTWARDS ARROW FROM BARbdRIGHTWARDSbdLEFTWARDS DOUBLEbeRIGHTWARDScSQUIGGLE ARROW
  aBRAILLE PATTERN BLANK+2900aRIGHTWARDS TWO-HEADED ARROW WITH VERTICAL STROKEecDOUBLE
  acLEFTWARDS DOUBLE ARROW WITHafRIGHTWARDSafLEFT RIGHTaRIGHTWARDS TWO-HEADED ARROW FROM BAR
  adLEFTWARDS DOUBLEaeRIGHTWARDSaDOWNWARDS ARROW WITH HORIZONTAL STROKEaeUPWARDSbTRIPLE ARROW
  acDOWNWARDSabLEFTWARDS DOUBLE DASHadRIGHTWARDSacLEFTWARDS TRIPLEadRIGHTWARDSbdTWO-HEADED
  bARROW WITH DOTTED STEMaUPWARDS ARROW TO BARadDOWNWARDS
  aRIGHTWARDS ARROW WITH TAIL WITH VERTICAL STROKEfcDOUBLEbTWO-HEADED ARROW WITH TAIL
  fWITH VERTICAL STROKEgcDOUBLEaLEFTWARDS ARROW-TAILabRIGHTWARDSabLEFTWARDS DOUBLEacRIGHTWARDS
  aLEFTWARDS ARROW TO BLACK DIAMONDaeRIGHTWARDSadLEFTWARDS ARROW FROM BARagRIGHTWARDS
  aNORTH WEST AND SOUTH EAST ARROWbbEAST AND SOUTH WESTbWEST ARROW WITH HOOKbdEASTaeSOUTHbdWEST
  aNORTH WEST ARROW AND NORTH EAST ARROWbcEAST ARROW AND SOUTHabSOUTH EAST ARROW AND SOUTH WEST
  bcWEST ARROW AND NORTHaRISING DIAGONAL CROSSING FALLING DIAGONALabFALLING DIAGONAL CROSSING RISING
  aSOUTH EAST ARROW CROSSING NORTH EAST ARROWacNORTH EAST ARROW CROSSING SOUTH
  acFALLING DIAGONAL CROSSING NORTHacRISING DIAGONAL CROSSING SOUTH
  abNORTH EAST ARROW CROSSING NORTH WESTbbWEST ARROW CROSSING NORTH EAST
  aWAVE ARROW POINTING DIRECTLY RIGHTaARROW POINTING RIGHTWARDS THEN CURVING UPWARDSfDOWNWARDS
  cDOWNWARDS THEN CURVING LEFTWARDSfRIGHTWARDSaRIGHT-SIDE ARC CLOCKWISE ARROW
  abLEFT-SIDE ARC ANTICLOCKWISEadTOPadBOTTOMaTOP ARC CLOCKWISE ARROW WITH MINUS
  cANTICLOCKWISE ARROW WITH PLUSaLOWER RIGHT SEMICIRCULAR CLOCKWISE ARROW
  bbLEFT SEMICIRCULAR ANTICLOCKWISEabANTICLOCKWISE CLOSED CIRCLEadCLOCKWISE
  abRIGHTWARDS ARROW ABOVE SHORT LEFTWARDSabLEFTWARDS ARROW ABOVE SHORT RIGHTWARDS
  abSHORT RIGHTWARDS ARROW ABOVE LEFTWARDSaRIGHTWARDS ARROW WITH PLUS BELOWaeLEFTWARDS
  aRIGHTWARDS ARROW THROUGH XaLEFT RIGHT ARROW THROUGH SMALL CIRCLEacUPWARDS TWO-HEADED ARROW FROM
  aLEFT BARB UP RIGHT BARB DOWN HARPOONcbDOWN RIGHT BARB UPabUP BARB RIGHT DOWN BARB LEFT
  cbLEFT DOWN BARB RIGHTabLEFT BARB UP RIGHT BARB UPabUP BARB RIGHT DOWN BARB RIGHT
  abLEFT BARB DOWN RIGHT BARB DOWNabUP BARB LEFT DOWN BARB LEFT
  aLEFTWARDS HARPOON WITH BARB UP TO BARagRIGHTWARDSacUPWARDS HARPOON WITH BARB RIGHTagDOWNWARDS
  acLEFTWARDS HARPOON WITH BARB DOWNagRIGHTWARDSacUPWARDS HARPOON WITH BARB LEFTagDOWNWARDS
  abLEFTWARDS HARPOON WITH BARB UP FROMagRIGHTWARDSacUPWARDS HARPOON WITH BARB RIGHTagDOWNWARDS
  acLEFTWARDS HARPOON WITH BARB DOWNagRIGHTWARDSacUPWARDS HARPOON WITH BARB LEFTagDOWNWARDS
  aLEFTWARDS HARPOON WITH BARB UP ABOVE LEFTWARDS HARPOON WITH BARB DOWN
  aUPWARDS HARPOON WITH BARB LEFT BESIDE UPWARDS HARPOON WITH BARB RIGHT
  aRIGHTWARDS HARPOON WITH BARB UP ABOVE RIGHTWARDS HARPOON WITH BARB DOWN
  aDOWNWARDS HARPOON WITH BARB LEFT BESIDE DOWNWARDS HARPOON WITH BARB RIGHT
  aLEFTWARDS HARPOON WITH BARB UP ABOVE RIGHTWARDS HARPOON WITH BARB UP
  eDOWN ABOVE RIGHTWARDS HARPOON WITH BARB DOWN
  aRIGHTWARDS HARPOON WITH BARB UP ABOVE LEFTWARDS HARPOON WITH BARB UP
  eDOWN ABOVE LEFTWARDS HARPOON WITH BARB DOWNaLEFTWARDS HARPOON WITH BARB UP ABOVE LONG DASH
  ecDOWN BELOWacRIGHTWARDS HARPOON WITH BARB UP ABOVEecDOWN BELOW
  aUPWARDS HARPOON WITH BARB LEFT BESIDE DOWNWARDS HARPOON WITH BARB RIGHT
  aeDOWNWARDS HARPOON WITH BARB LEFT BESIDE UPWARDSaRIGHT DOUBLE ARROW WITH ROUNDED HEAD
  aEQUALS SIGN ABOVE RIGHTWARDS ARROWadTILDE OPERATORaLEFTWARDS ARROW ABOVE TILDE OPERATOR
  aeRIGHTWARDSdALMOST EQUAL TOaLESS-THAN ABOVE LEFTWARDS ARROWaLEFTWARDS ARROW THROUGH LESS-THAN
  aGREATER-THAN ABOVE RIGHTWARDS ARROWadSUBSETaLEFTWARDS ARROW THROUGH SUBSET
  aSUPERSET ABOVE LEFTWARDS ARROWaLEFT FISH TAILacRIGHTacUPacDOWNaTRIPLE VERTICAL BAR DELIMITER
  aZ NOTATION SPOTcTYPE COLONaLEFT WHITE CURLY BRACKETadRIGHTaLEFT WHITE PARENTHESISacRIGHT
  aZ NOTATION LEFT IMAGE BRACKETccRIGHTcbLEFT BINDINGccRIGHTaLEFT SQUARE BRACKET WITH UNDERBAR
  aeRIGHTaLEFT SQUARE BRACKET WITH TICK IN TOP CORNERabRIGHT SQUARE BRACKET WITH TICK IN BOTTOM
  ahLEFTabRIGHT SQUARE BRACKET WITH TICK IN TOPaLEFT ANGLE BRACKET WITH DOTaeRIGHT
  aLEFT ARC LESS-THAN BRACKETabRIGHT ARC GREATER-THANadDOUBLE LEFTbbRIGHT ARC LESS-THAN
  abLEFT BLACK TORTOISE SHELLaeRIGHTaDOTTED FENCEaVERTICAL ZIGZAG LINEaMEASURED ANGLE OPENING LEFT
  aRIGHT ANGLE VARIANT WITH SQUAREaMEASURED RIGHT ANGLE WITH DOTaANGLE WITH S INSIDEaACUTE ANGLE
  aSPHERICAL ANGLE OPENING LEFTdUPaTURNED ANGLEabREVERSEDaANGLE WITH UNDERBARadREVERSED
  aOBLIQUE ANGLE OPENING UPdDOWNaMEASURED ANGLE WITH OPEN ARM ENDING IN ARROW POINTING UP AND RIGHT
  lLEFTjDOWN AND RIGHTlLEFTjRIGHT AND UPjcLEFTjRIGHT AND DOWNjcLEFTaREVERSED EMPTY SET
  aEMPTY SET WITH OVERBARdSMALL CIRCLE ABOVEdbRIGHT ARROWdcLEFTaCIRCLE WITH HORIZONTAL BAR
  abCIRCLED VERTICALbPARALLELbREVERSE SOLIDUSbPERPENDICULAR
  aCIRCLE DIVIDED BY HORIZONTAL BAR AND TOP HALF DIVIDED BY VERTICAL BARbWITH SUPERIMPOSED X
  aCIRCLED ANTICLOCKWISE-ROTATED DIVISION SIGNaUP ARROW THROUGH CIRCLEaCIRCLED WHITE BULLETbb
  +29C0bLESS-THANbGREATER-THANaCIRCLE WITH SMALL CIRCLE TO THE RIGHTcdTWO HORIZONTAL STROKES
  aSQUARED RISING DIAGONAL SLASHbcFALLINGbASTERISKbSMALL CIRCLEbSQUAREaTWO JOINED SQUARES
  aTRIANGLE WITH DOT ABOVEcUNDERBARaS IN TRIANGLEaTRIANGLE WITH SERIFS AT BOTTOM
  aRIGHT TRIANGLE ABOVE LEFT TRIANGLEaLEFT TRIANGLE BESIDE VERTICAL BAR
  aVERTICAL BAR BESIDE RIGHT TRIANGLEaBOWTIE WITH LEFT HALF BLACKccRIGHTaBLACK BOWTIE
  aTIMES WITH LEFT HALF BLACKccRIGHTaWHITE HOURGLASSabBLACKaLEFT WIGGLY FENCEacRIGHTacLEFT DOUBLE
  adRIGHTaINCOMPLETE INFINITYabTIE OVERaINFINITY NEGATED WITH VERTICAL BARaDOUBLE-ENDED MULTIMAP
  aSQUARE WITH CONTOURED OUTLINEaINCREASES ASaSHUFFLE PRODUCTaEQUALS SIGN AND SLANTED PARALLEL
  fWITH TILDE ABOVEaIDENTICAL TO AND SLANTED PARALLELaGLEICH STARKaTHERMODYNAMIC
  aDOWN-POINTING TRIANGLE WITH LEFT HALF BLACKdcRIGHTaBLACK DIAMOND WITH DOWN ARROWbLOZENGE
  aWHITE CIRCLE WITH DOWN ARROWaeBLACKaERROR-BARRED WHITE SQUAREbbBLACKbWHITE DIAMONDbbBLACK
  bWHITE CIRCLEbbBLACKaRULE-DELAYEDaREVERSE SOLIDUS OPERATORaSOLIDUS WITH OVERBAR
  aREVERSE SOLIDUS WITH HORIZONTAL STROKEaBIG SOLIDUSbbREVERSEaDOUBLE PLUSabTRIPLE
  aLEFT-POINTING CURVED ANGLE BRACKETadRIGHT-POINTINGaTINYaMINYaN-ARY CIRCLED DOT OPERATORcbPLUS
  cbTIMESbUNION OPERATOR WITH DOTePLUSbSQUARE INTERSECTION OPERATORcbUNIONabTWO LOGICAL ANDcbOR
  abN-ARY TIMESaMODULO TWO SUMaSUMMATION WITH INTEGRALaQUADRUPLE INTEGRAL OPERATOR
  aFINITE PART INTEGRALaINTEGRAL WITH DOUBLE STROKEbAVERAGE WITH SLASHaCIRCULATION FUNCTION
  aANTICLOCKWISE INTEGRATIONaLINE INTEGRATION WITH RECTANGULAR PATH AROUND POLEddSEMICIRCULAR
  cbNOT INCLUDING THEaINTEGRAL AROUND A POINT OPERATORabQUATERNION INTEGRAL
  aINTEGRAL WITH LEFTWARDS ARROW WITH HOOKcTIMES SIGNcINTERSECTIONcUNIONcOVERBARcUNDERBARaJOIN
  aLARGE LEFT TRIANGLE OPERATORaZ NOTATION SCHEMA COMPOSITIONdPIPINGdPROJECTION
  aPLUS SIGN WITH SMALL CIRCLE ABOVEdbCIRCUMFLEX ACCENTdbTILDEdDOT BELOWdbTILDEdSUBSCRIPT TWO
  dBLACK TRIANGLEaMINUS SIGN WITH COMMA ABOVEdDOT BELOWdFALLING DOTSdbRISING
  aPLUS SIGN IN LEFT HALF CIRCLEdcRIGHTaVECTOR OR CROSS PRODUCTaMULTIPLICATION SIGN WITH DOT ABOVE
  dUNDERBARaSEMIDIRECT PRODUCT WITH BOTTOM CLOSEDaSMASH PRODUCT
  aMULTIPLICATION SIGN IN LEFT HALF CIRCLEdcRIGHTaCIRCLED MULTIPLICATION SIGN WITH CIRCUMFLEX ACCENT
  aMULTIPLICATION SIGN IN DOUBLE CIRCLEaCIRCLED DIVISION SIGNaPLUS SIGN IN TRIANGLEadMINUS
  adMULTIPLICATIONaINTERIOR PRODUCTacRIGHTHANDaZ NOTATION RELATIONAL COMPOSITION
  aAMALGAMATION OR COPRODUCTaINTERSECTION WITH DOTaUNION WITH MINUS SIGNcOVERBARacINTERSECTION
  cLOGICAL ANDaUNION WITH LOGICAL ORbABOVE INTERSECTIONaINTERSECTION ABOVE UNION
  aUNION ABOVE BAR ABOVE INTERSECTIONaINTERSECTION ABOVE BAR ABOVE UNION
  abUNION BESIDE AND JOINED WITHaINTERSECTION BESIDE AND JOINED WITH INTERSECTION
  aCLOSED UNION WITH SERIFSbcINTERSECTIONaDOUBLE SQUARE INTERSECTIONcUNION
  aCLOSED UNION WITH SERIFS AND SMASH PRODUCTaLOGICAL AND WITH DOT ABOVEbdORaDOUBLE LOGICAL ANDcOR
  aTWO INTERSECTING LOGICAL ANDdORabSLOPING LARGEcANDabLOGICAL OR OVERLAPPING LOGICAL
  bAND WITH MIDDLE STEMbdORbAND WITH HORIZONTAL DASHbdORbAND WITH DOUBLE OVERBARdUNDERBARdbDOUBLE
  abSMALL VEE WITHaLOGICAL OR WITH DOUBLE OVERBAReUNDERBARaZ NOTATION DOMAIN ANTIRESTRICTIONcbRANGE
  aEQUALS SIGN WITH DOT BELOWaIDENTICAL WITH DOT ABOVE
  aTRIPLE HORIZONTAL BAR WITH DOUBLE VERTICAL STROKEecTRIPLEaTILDE OPERATOR WITH DOT ABOVE
  dRISING DOTSaSIMILAR MINUS SIMILARaCONGRUENT WITH DOT ABOVEaEQUALS WITH ASTERISK
  aALMOST EQUAL TO WITH CIRCUMFLEX ACCENTaAPPROXIMATELY EQUAL OR EQUAL TO
  aEQUALS SIGN ABOVE PLUS SIGNabPLUS SIGN ABOVE EQUALSaEQUALS SIGN ABOVE TILDE OPERATOR
  aDOUBLE COLON EQUALaTWO CONSECUTIVE EQUALS SIGNSadTHREE
  aEQUALS SIGN WITH TWO DOTS ABOVE AND TWO DOTS BELOWaEQUIVALENT WITH FOUR DOTS ABOVE
  aLESS-THAN WITH CIRCLE INSIDEadGREATER-THANaLESS-THAN WITH QUESTION MARK ABOVEaeGREATER-THAN
  aLESS-THAN OR SLANTED EQUAL TOaeGREATER-THANaLESS-THAN OR SLANTED EQUAL TO WITH DOT INSIDE
  ahGREATER-THANaLESS-THAN OR SLANTED EQUAL TO WITH DOT ABOVEahGREATER-THAN
  aLESS-THAN OR SLANTED EQUAL TO WITH DOT ABOVE RIGHT
  aGREATER-THAN OR SLANTED EQUAL TO WITH DOT ABOVE LEFTaLESS-THAN OR APPROXIMATEacGREATER-THAN
  aLESS-THAN AND SINGLE-LINE NOT EQUAL TOafGREATER-THANaLESS-THAN AND NOT APPROXIMATEadGREATER-THAN
  aLESS-THAN ABOVE DOUBLE-LINE EQUAL ABOVE GREATER-THAN
  aGREATER-THAN ABOVE DOUBLE-LINE EQUAL ABOVE LESS-THANaLESS-THAN ABOVE SIMILAR OR EQUAL
  aeGREATER-THANaLESS-THAN ABOVE SIMILAR ABOVE GREATER-THAN
  aGREATER-THAN ABOVE SIMILAR ABOVE LESS-THANaLESS-THAN ABOVE GREATER-THAN ABOVE DOUBLE-LINE EQUAL
  adGREATER-THAN ABOVE LESS-THANabLESS-THAN ABOVE SLANTED EQUAL ABOVE GREATER-THAN ABOVE SLANTED
  adGREATER-THAN ABOVE SLANTED EQUAL ABOVE LESS-THANaSLANTED EQUAL TO OR LESS-THANeGREATER-THAN
  eLESS-THAN WITH DOT INSIDEedGREATER-THANaDOUBLE-LINE EQUAL TO OR LESS-THANeGREATER-THAN
  bSLANTED EQUAL TO OR LESS-THANfGREATER-THANaSIMILAR OR LESS-THANcGREATER-THAN
  bABOVE LESS-THAN ABOVE EQUALS SIGNcdGREATER-THANaDOUBLE NESTED LESS-THANcGREATER-THAN
  cLESS-THAN WITH UNDERBARaGREATER-THAN OVERLAPPING LESS-THANbbBESIDEaLESS-THAN CLOSED BY CURVE
  adGREATER-THANaLESS-THAN CLOSED BY CURVE ABOVE SLANTED EQUALagGREATER-THANaSMALLER THANabLARGER
  aSMALLER THAN OR EQUAL TOaeLARGERaEQUALS SIGN WITH BUMPY ABOVE
  aPRECEDES ABOVE SINGLE-LINE EQUALS SIGNaeSUCCEEDSaPRECEDES ABOVE SINGLE-LINE NOT EQUAL TO
  afSUCCEEDSaPRECEDES ABOVE EQUALS SIGNadSUCCEEDSaPRECEDES ABOVE NOT EQUAL TOaeSUCCEEDS
  acPRECEDES ABOVE ALMOSTaeSUCCEEDSadPRECEDES ABOVE NOTafSUCCEEDSaDOUBLE PRECEDESbSUCCEEDS
  aSUBSET WITH DOTacSUPERSETaSUBSET WITH PLUS SIGN BELOWaeSUPERSETacSUBSET WITH MULTIPLICATION
  aeSUPERSETaSUBSET OF OR EQUAL TO WITH DOT ABOVEahSUPERSETaSUBSET OF ABOVE EQUALS SIGNaeSUPERSET
  aSUBSET OF ABOVE TILDE OPERATORaeSUPERSETaSUBSET OF ABOVE ALMOST EQUAL TOafSUPERSET
  acSUBSET OF ABOVE NOTafSUPERSETaSQUARE LEFT OPEN BOX OPERATORbdRIGHTaCLOSED SUBSETbSUPERSET
  bSUBSET OR EQUAL TObdSUPERSETaSUBSET ABOVE SUPERSETaSUPERSET ABOVE SUBSETacSUBSET
  aSUPERSET ABOVE SUPERSETbBESIDE SUBSETcbAND JOINED BY DASH WITHaELEMENT OF OPENING DOWNWARDS
  aPITCHFORK WITH TEE TOPaTRANSVERSAL INTERSECTIONaFORKINGaNONFORKINGaSHORT LEFT TACKbbDOWNbbUP
  aPERPENDICULAR WITH SaVERTICAL BAR TRIPLE RIGHT TURNSTILEabDOUBLE VERTICAL BAR LEFT
  acVERTICAL BAR DOUBLEafDOUBLEaLONG DASH FROM LEFT MEMBER OF DOUBLE VERTICAL
  aSHORT DOWN TACK WITH OVERBARbUP TACK WITH UNDERBARdABOVE SHORT DOWN TACKacDOUBLEbbUP
  bSTROKE NOT SIGNaeREVERSEDaDOES NOT DIVIDE WITH REVERSED NEGATION SLASH
  aVERTICAL LINE WITH CIRCLE ABOVEeBELOWadDOWN TACKaPARALLEL WITH HORIZONTAL STROKEcTILDE OPERATOR
  aTRIPLE VERTICAL BAR BINARY RELATIONdWITH HORIZONTAL STROKEbCOLON OPERATORbNESTED LESS-THAN
  cGREATER-THANaDOUBLE-LINE SLANTED LESS-THAN OR EQUAL TOcdGREATER-THAN
  aTRIPLE SOLIDUS BINARY RELATIONaLARGE TRIPLE VERTICAL BAR OPERATORabDOUBLE SOLIDUS
  aWHITE VERTICAL BARadN-ARYaNORTH EAST WHITE ARROWbcWESTacSOUTH EASTbcWESTacLEFT RIGHT
  abLEFTWARDS BLACKacUPWARDSacDOWNWARDSacNORTH EASTbcWESTacSOUTH EASTbcWESTacLEFT RIGHTacUP DOWN
  aRIGHTWARDS ARROW WITH TIP DOWNWARDSeUPWARDSaLEFTWARDS ARROW WITH TIP DOWNWARDSeUPWARDS
  aSQUARE WITH TOP HALF BLACKccBOTTOMccUPPER RIGHT DIAGONALcdLOWER LEFTacDIAMOND WITH LEFTccRIGHT
  ccTOPccBOTTOMaDOTTED SQUAREabBLACK LARGEacWHITEabBLACK VERY SMALLadWHITEaBLACK PENTAGONabWHITE
  bHEXAGONabBLACKacHORIZONTALaBLACK LARGE CIRCLEbMEDIUM DIAMONDacWHITEaBLACK MEDIUM LOZENGEacWHITE
  aBLACK SMALL DIAMONDcLOZENGEacWHITEaBLACK HORIZONTAL ELLIPSEacWHITEabBLACK VERTICALacWHITE
  aLEFT ARROW WITH SMALL CIRCLEaTHREE LEFTWARDS ARROWSaLEFT ARROW WITH CIRCLED PLUS
  aLONG LEFTWARDS SQUIGGLE ARROWaLEFTWARDS TWO-HEADED ARROW WITH VERTICAL STROKEecDOUBLEdFROM BAR
  cTRIPLE DASH ARROWbARROW WITH DOTTED STEMdTAIL WITH VERTICAL STROKEfcDOUBLE
  bTWO-HEADED ARROW WITH TAILfWITH VERTICAL STROKEgcDOUBLEbARROW THROUGH X
  aWAVE ARROW POINTING DIRECTLY LEFTaEQUALS SIGN ABOVE LEFTWARDS ARROWadREVERSE TILDE OPERATOR
  aLEFTWARDS ARROW ABOVE REVERSE ALMOST EQUAL TOaRIGHTWARDS ARROW THROUGH GREATER-THANdSUPERSET
  aLEFTWARDS QUADRUPLE ARROWacRIGHTWARDSabREVERSE TILDE OPERATOR ABOVE RIGHTWARDS
  aRIGHTWARDS ARROW ABOVE REVERSE ALMOST EQUAL TOaTILDE OPERATOR ABOVE LEFTWARDS ARROW
  aLEFTWARDS ARROW ABOVE ALMOST EQUAL TOdREVERSE TILDE OPERATORafRIGHTWARDS
  aDOWNWARDS TRIANGLE-HEADED ZIGZAG ARROWabSHORT SLANTED NORTHbbBACKSLANTED SOUTHaWHITE MEDIUM STAR
  abBLACK SMALLacWHITEaBLACK RIGHT-POINTING PENTAGONacWHITEaHEAVY LARGE CIRCLEbOVAL WITH OVAL INSIDE
  bbCIRCLE WITH CIRCLEc+2B59bCIRCLED SALTIREaSLANTED NORTH ARROW WITH HOOKED HEAD
  aBACKSLANTED SOUTH ARROW WITH HOOKED TAILabSLANTED NORTH ARROW WITH HORIZONTALaeBACKSLANTED SOUTH
  aBENT ARROW POINTING DOWNWARDS THEN NORTH EASTahSHORTaLEFTWARDS TRIANGLE-HEADED ARROWacUPWARDS
  acRIGHTWARDSacDOWNWARDSacLEFT RIGHTacUP DOWNacNORTH WESTbcEASTadSOUTHbcWEST
  abLEFTWARDS TRIANGLE-HEADED DASHEDadUPWARDSadRIGHTWARDSadDOWNWARDS
  abCLOCKWISE TRIANGLE-HEADED OPEN CIRCLEaeANTICLOCKWISEaLEFTWARDS TRIANGLE-HEADED ARROW TO BAR
  aeUPWARDSaeRIGHTWARDSaeDOWNWARDS+2B76aeNORTH WESTbeEASTafSOUTHbeWEST
  aLEFTWARDS TRIANGLE-HEADED ARROW WITH DOUBLE HORIZONTAL STROKEagUPWARDSagRIGHTWARDSagDOWNWARDS
  aHORIZONTAL TAB KEYacVERTICAL
  aLEFTWARDS TRIANGLE-HEADED ARROW OVER RIGHTWARDS TRIANGLE-HEADED ARROW
  acUPWARDS TRIANGLE-HEADED ARROW LEFTWARDS OF DOWNWARDS
  acRIGHTWARDS TRIANGLE-HEADED ARROW OVER LEFTWARDS
  acDOWNWARDS TRIANGLE-HEADED ARROW LEFTWARDS OF UPWARDSaLEFTWARDS TRIANGLE-HEADED PAIRED ARROWS
  adUPWARDSadRIGHTWARDSadDOWNWARDSaLEFTWARDS BLACK CIRCLED WHITE ARROWaeUPWARDSaeRIGHTWARDS
  aeDOWNWARDSabANTICLOCKWISE TRIANGLE-HEADED RIGHT U-SHAPEDccBOTTOMccLEFTccTOPaRETURN LEFTbRIGHT
  aNEWLINE LEFTbRIGHTaFOUR CORNER ARROWS CIRCLING ANTICLOCKWISEaRIGHTWARDS BLACK ARROW
  +2B97aSYMBOL FOR TYPE A ELECTRONICSaTHREE-D TOP-LIGHTED LEFTWARDS EQUILATERAL ARROWHEAD
  bcRIGHT-LIGHTED UPWARDSbcTOP-LIGHTED RIGHTWARDSbcLEFT-LIGHTED DOWNWARDSacBLACK LEFTWARDSbcUPWARDS
  bcRIGHTWARDSbcDOWNWARDSaDOWNWARDS TRIANGLE-HEADED ARROW WITH LONG TIP LEFTWARDSgRIGHTWARDS
  aUPWARDS TRIANGLE-HEADED ARROW WITH LONG TIP LEFTWARDSgRIGHTWARDS
  aLEFTWARDS TRIANGLE-HEADED ARROW WITH LONG TIP UPWARDSagRIGHTWARDS
  aLEFTWARDS TRIANGLE-HEADED ARROW WITH LONG TIP DOWNWARDSagRIGHTWARDS
  aBLACK CURVED DOWNWARDS AND LEFTWARDS ARROWebRIGHTWARDScbUPWARDS AND LEFTWARDSebRIGHTWARDS
  cbLEFTWARDS AND UPWARDScdRIGHTWARDScbLEFTWARDS AND DOWNWARDScdRIGHTWARDSaRIBBON ARROW DOWN LEFT
  dRIGHTcUP LEFTdRIGHTcLEFT UPcbRIGHTcLEFT DOWNcbRIGHT
  aUPWARDS WHITE ARROW FROM BAR WITH HORIZONTAL BARaUP ARROWHEAD IN A RECTANGLE BOX
  aOVERLAPPING WHITE SQUAREScbAND BLACKbc+2BBDaBALLOT BOX WITH LIGHT XabCIRCLEDbbBOLD
  aBLACK SQUARE CENTREDbbDIAMONDaTURNED BLACK PENTAGONaHORIZONTAL BLACK OCTAGONac
  +2BC5bMEDIUM UP-POINTING TRIANGLE CENTREDccDOWN-POINTINGccLEFT-POINTINGccRIGHT-POINTING
  aNEPTUNE FORM TWOaTOP HALF BLACK CIRCLEadBOTTOMaLIGHT FOUR POINTED BLACK CUSPafROTATED
  abWHITE FOUR POINTEDaeROTATEDaSQUARE POSITION INDICATORaUNCERTAINTY SIGNaGROUP MARKaPLUTO FORM TWO
  cTHREEcFOURcFIVEaTRANSPLUTOaPROSERPINAaASTRAEAaHYGIEAaPHOLUSaNESSUSaWHITE MOON SELENA
  aBLACK DIAMOND ON CROSSaTRUE LIGHT MOON ARTAaCUPIDOaHADESaZEUSaKRONOSaAPOLLONaADMETOSaVULCANUS
  aPOSEIDONaLEFT HALF BLACK STARadRIGHTaSTAR WITH LEFT HALF BLACKccRIGHT
  aLEFTWARDS TWO-HEADED ARROW WITH TRIANGLE ARROWHEADSafUPWARDSafRIGHTWARDSafDOWNWARDSaERIS FORM ONE
  cTWOaSEDNAaRUSSIAN ASTROLOGICAL SYMBOL VIGINTILEdNOVILEdQUINTILEdBINOVILEdSENTAGONdTREDECILE
  aEQUALS SIGN WITH INFINITY BELOWaUNITED SYMBOLabSEPARATEDabDOUBLEDabPASSEDaREVERSED RIGHT ANGLE
  aHELLSCHREIBER PAUSE SYMBOLaGLAGOLITIC CAPITAL LETTER AZUdBUKYdVEDEdGLAGOLIdDOBROdYESTUdZHIVETE
  dDZELOdZEMLJAdIZHEdbINITIALdIdDJERVIdKAKOdLJUDIJEdMYSLITEdNASHIdONUdPOKOJIdRITSIdSLOVOdTVRIDOdUKU
  dFRITUdHERUdOTUdPEdSHTAdTSIdCHRIVIdSHAdYERUdYERIdYATIdSPIDERY HAdYUdSMALL YUSfWITH TAILdYO
  dIOTATED SMALL YUSdbBIGdcIOTATEDdFITAdIZHITSAdSHTAPICdTROKUTASTI AdLATINATE MYSLITEdCAUDATE CHRIVI
  bSMALL LETTER AZUdBUKYdVEDEdGLAGOLIdDOBROdYESTUdZHIVETEdDZELOdZEMLJAdIZHEdbINITIALdIdDJERVIdKAKO
  dLJUDIJEdMYSLITEdNASHIdONUdPOKOJIdRITSIdSLOVOdTVRIDOdUKUdFRITUdHERUdOTUdPEdSHTAdTSIdCHRIVIdSHA
  dYERUdYERIdYATIdSPIDERY HAdYUdSMALL YUSfWITH TAILdYOdIOTATED SMALL YUSdbBIGdcIOTATEDdFITAdIZHITSA
  dSHTAPICdTROKUTASTI AdLATINATE MYSLITEdCAUDATE CHRIVIaLATIN CAPITAL LETTER L WITH DOUBLE BAR
  bfSMALLbCAPITAL LETTER L WITH MIDDLE TILDEdP WITH STROKEdR WITH TAILbSMALL LETTER A WITH STROKE
  dbT WITH DIAGONALbCAPITAL LETTER H WITH DESCENDERbeSMALLbcCAPITAL LETTER KbeSMALL
  bcCAPITAL LETTER ZbeSMALLbCAPITAL LETTER ALPHAdM WITH HOOKdTURNED AeALPHA
  bSMALL LETTER V WITH RIGHT HOOKbbCAPITAL LETTER W WITHbeSMALLdV WITH CURLbCAPITAL LETTER HALF H
  bdSMALLdTAILLESS PHIdE WITH NOTCHdTURNED R WITH TAILdO WITH LOW RING INSIDE
  bLETTER SMALL CAPITAL TURNED EbSUBSCRIPT SMALL LETTER JaMODIFIER LETTER CAPITAL V
  aLATIN CAPITAL LETTER S WITH SWASH TAILddZaCOPTIC CAPITAL LETTER ALFAbcSMALLbCAPITAL LETTER VIDA
  bcSMALLbCAPITAL LETTER GAMMAbcSMALLbCAPITAL LETTER DALDAbcSMALLbCAPITAL LETTER EIEbcSMALL
  bCAPITAL LETTER SOUbcSMALLbCAPITAL LETTER ZATAbcSMALLbCAPITAL LETTER HATEbcSMALL
  bCAPITAL LETTER THETHEbcSMALLbCAPITAL LETTER IAUDAbcSMALLbCAPITAL LETTER KAPAbcSMALL
  bCAPITAL LETTER LAULAbcSMALLbCAPITAL LETTER MIbcSMALLbCAPITAL LETTER NIbcSMALLbCAPITAL LETTER KSI
  bcSMALLbCAPITAL LETTER ObcSMALLbCAPITAL LETTER PIbcSMALLbCAPITAL LETTER RObcSMALL
  bCAPITAL LETTER SIMAbcSMALLbCAPITAL LETTER TAUbcSMALLbCAPITAL LETTER UAbcSMALLbCAPITAL LETTER FI
  bcSMALLbCAPITAL LETTER KHIbcSMALLbCAPITAL LETTER PSIbcSMALLbCAPITAL LETTER OOUbcSMALL
  bCAPITAL LETTER DIALECT-P ALEFbdSMALLbCAPITAL LETTER OLD COPTIC AINbeSMALL
  bCAPITAL LETTER CRYPTOGRAMMIC EIEbdSMALLbCAPITAL LETTER DIALECT-P KAPAbdSMALL
  bCAPITAL LETTER DIALECT-P NIbdSMALLbbCAPITAL LETTER CRYPTOGRAMMICbdSMALL
  bCAPITAL LETTER OLD COPTIC OOUbeSMALLbCAPITAL LETTER SAMPIbcSMALLbCAPITAL LETTER CROSSED SHEI
  bdSMALLbbCAPITAL LETTER OLD COPTICbeSMALLbCAPITAL LETTER OLD COPTIC ESHbeSMALL
  bCAPITAL LETTER AKHMIMIC KHEIbdSMALLbCAPITAL LETTER DIALECT-P HORIbdSMALL
  bbCAPITAL LETTER OLD COPTICbeSMALLbCAPITAL LETTER OLD COPTIC HAbeSMALLbbCAPITAL LETTER L-SHAPED
  bdSMALLbCAPITAL LETTER OLD COPTIC HEIbeSMALLbCAPITAL LETTER OLD COPTIC HATbeSMALL
  bCAPITAL LETTER OLD COPTIC GANGIAbeSMALLbCAPITAL LETTER OLD COPTIC DJAbeSMALL
  bCAPITAL LETTER OLD COPTIC SHIMAbeSMALLbbCAPITAL LETTER OLD NUBIANbeSMALL
  bCAPITAL LETTER OLD NUBIAN NGIbeSMALLbCAPITAL LETTER OLD NUBIAN NYIbeSMALL
  bCAPITAL LETTER OLD NUBIAN WAUbeSMALLbSYMBOL KAIcMI ROcbPIcSTAUROScTAU ROcbKHIcSHIMA SIMA
  bCAPITAL LETTER CRYPTOGRAMMIC SHEIbdSMALLbCAPITAL LETTER CRYPTOGRAMMIC GANGIAbdSMALL
  bCOMBINING NI ABOVEcSPIRITUS ASPERdLENISbCAPITAL LETTER BOHAIRIC KHEIbdSMALL
  +2CF9bOLD NUBIAN FULL STOPdDIRECT QUESTION MARKdcINDIRECTdVERSE DIVIDERbFRACTION ONE HALF
  bFULL STOPbMORPHOLOGICAL DIVIDERaGEORGIAN SMALL LETTER ANdBANdGANdDONdENdVINdZENdTANdINdKANdLAS
  dMANdNARdONdPARdZHARdRAEdSANdTARdUNdPHARdKHARdGHANdQARdSHINdCHINdCANdJILdCILdCHARdXANdJHANdHAEdHE
  dHIEdWEdHARdHOE+2D27dYN+2D2DdAEN+2D30aTIFINAGH LETTER YAcYABcYABHcYAGcYAGHHcBERBER ACADEMY YAJcb
  +2D37cYADcYADHcYADDcYADDHcYEYcYAFcYAKcbTUAREGcYAKHHcYAHcbBERBER ACADEMYcbTUAREGcYAHHcYAAcYAKH
  cbTUAREGcYAQcbTUAREGcYIcYAZHcbAHAGGARcbTUAREGcYALcYAMcYANcTUAREG YAGNdYANGcYAPcYUcYARcYARRcYAGH
  cbTUAREGcbAYERcYAScYASScYASHcYATcYATHcYACHcYATTcYAVcYAWcYAYcYAZcbTAWELLEMETcYAZZcYEcYO
  +2D6FbMODIFIER LETTER LABIALIZATION MARKbbSEPARATOR+2D7FbCONSONANT JOINERaETHIOPIC SYLLABLE LOA
  cMOAcROAcSOAcSHOAcBOAcTOAcCOAcNOAcNYOAcGLOTTAL OAcZOAcDOAcDDOAcJOAcTHOAcCHOAcPHOAcPOAcGGWAcGGWI
  cGGWEEcGGWE+2DA0cSSAcSSUcSSIcSSAAcSSEEcSSEcSSO+2DA8cCCAcCCUcCCIcCCAAcCCEEcCCEcCCO+2DB0cZZAcZZUcZZI
  cZZAAcZZEEcZZEcZZO+2DB8cCCHAcCCHUcCCHIcCCHAAcCCHEEcCCHEcCCHO+2DC0cQYAcQYUcQYIcQYAAcQYEEcQYEcQYO
  +2DC8cKYAcKYUcKYIcKYAAcKYEEcKYEcKYO+2DD0cXYAcXYUcXYIcXYAAcXYEEcXYEcXYO+2DD8cGYAcGYUcGYIcGYAAcGYEE
  cGYEcGYO+2DE0aCOMBINING CYRILLIC LETTER BEdVEdGHEdDEdZHEdZEdKAdELdEMdENdOdPEdERdESdTEdHAdTSEdCHE
  dSHAdSHCHAdFITAdES-TEdAdIEdDJERVdMONOGRAPH UKdYATdYUdIOTIFIED AdLITTLE YUSdbBIGdcIOTIFIED
  aRIGHT ANGLE SUBSTITUTION MARKERccDOTTEDaLEFT SUBSTITUTION BRACKETacRIGHTacLEFT DOTTEDadRIGHT
  aRAISED INTERPOLATION MARKERbcDOTTEDabDOTTED TRANSPOSITIONaLEFT TRANSPOSITION BRACKETacRIGHT
  aRAISED SQUAREaLEFT RAISED OMISSION BRACKETadRIGHTaEDITORIAL CORONISaPARAGRAPHOSabFORKEDacREVERSED
  aHYPODIASTOLEaDOTTED OBELOSaDOWNWARDS ANCORAabUPWARDSaDOTTED RIGHT-POINTING ANGLE
  aDOUBLE OBLIQUE HYPHENaINVERTED INTERROBANGaPALM BRANCHaHYPHEN WITH DIAERESIS
  aTILDE WITH RING ABOVEaLEFT LOW PARAPHRASE BRACKETadRIGHTaTILDE WITH DOT ABOVEdBELOW
  aLEFT VERTICAL BAR WITH QUILLaeRIGHTaTOP LEFT HALF BRACKETbcRIGHTacBOTTOM LEFTbcRIGHT
  abLEFT SIDEWAYS UadRIGHTaLEFT DOUBLE PARENTHESISacRIGHTaTWO DOTS OVER ONE DOT PUNCTUATION
  abONE DOT OVER TWO DOTSabSQUARED FOUR DOTaFIVE DOT MARKabREVERSED QUESTIONaVERTICAL TILDE
  aRING POINTaWORD SEPARATOR MIDDLE DOTaTURNED COMMAaRAISED DOTbCOMMAaTURNED SEMICOLON
  aDAGGER WITH LEFT GUARDcbRIGHTaTURNED DAGGERaTOP HALF SECTION SIGNaTWO-EM DASHabTHREE-EM
  aSTENOGRAPHIC FULL STOPaVERTICAL SIX DOTSaWIGGLY VERTICAL LINEaCAPITULUMaDOUBLE HYPHEN
  aREVERSED COMMAaDOUBLE LOW-REVERSED-9 QUOTATION MARKaDASH WITH LEFT UPTURNaDOUBLE SUSPENSION MARK
  aINVERTED LOW KAVYKAdWITH KAVYKA ABOVEaLOW KAVYKAcWITH DOTaDOUBLE STACKED COMMAaDOTTED SOLIDUS
  aTRIPLE DAGGERaMEDIEVAL COMMAaPARAGRAPHUS MARKabPUNCTUS ELEVATUSaCORNISH VERSE DIVIDER
  aCROSS PATTY WITH RIGHT CROSSBARdbLEFTaTIRONIAN SIGN CAPITAL ETaMEDIEVAL EXCLAMATION MARK
  bbQUESTIONaLEFT SQUARE BRACKET WITH STROKEaeRIGHTabLEFT SQUARE BRACKET WITH DOUBLEafRIGHT
  aTOP HALF LEFT PARENTHESIScbRIGHTabBOTTOM HALF LEFTcbRIGHTaOBLIQUE HYPHEN"

end RecordPattern.Text.CharName
